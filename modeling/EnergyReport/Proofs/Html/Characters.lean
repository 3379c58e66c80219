import EnergyReport.Proofs.Html.Tokens

namespace EnergyReport.Html

/-! The characters that a page shows: its text with the entities decoded, without its tags or with
something else in their places. -/

/-- The text with its entities decoded, once and from left to right. -/
def unescape : Text → Text
  | '&' :: 'a' :: 'm' :: 'p' :: ';' :: rest => '&' :: unescape rest
  | '&' :: 'l' :: 't' :: ';' :: rest => '<' :: unescape rest
  | '&' :: 'g' :: 't' :: ';' :: rest => '>' :: unescape rest
  | c :: rest => c :: unescape rest
  | [] => []

def Token.replace (replacement : Tag → Text) : Token → Text
  | .tag found => replacement found
  | .char c => [c]

/-- A page with other texts in the places of its tags. -/
def replaceTags (replacement : Tag → Text) (page : Text) : Text :=
  (tokens page).flatMap (Token.replace replacement)

theorem replace_chars (replacement : Tag → Text) (text : Text) :
    (text.map Token.char).flatMap (Token.replace replacement) = text := by
  simp [List.flatMap_map, Token.replace]

theorem unescape_cons {c : Char} (ordinary : c ≠ '&') (rest : Text) :
    unescape (c :: rest) = c :: unescape rest := by
  rw [unescape] <;> simp [ordinary]

theorem unescape_append {text : Text} (plain : '&' ∉ text) (rest : Text) :
    unescape (text ++ rest) = text ++ unescape rest := by
  induction text with
  | nil => rfl
  | cons c text ih =>
      simp only [List.mem_cons, not_or] at plain
      rw [List.cons_append, unescape_cons (Ne.symm plain.1), ih plain.2, List.cons_append]

/-- What escaping writes for a character is decoded to that character. -/
theorem unescape_escapeChar (c : Char) (rest : Text) :
    unescape (escapeChar c ++ rest) = c :: unescape rest := by
  unfold escapeChar
  split
  · simp [unescape]
  · simp [unescape]
  · simp [unescape]
  · rename_i ordinary _ _
    exact unescape_cons ordinary rest

end EnergyReport.Html
