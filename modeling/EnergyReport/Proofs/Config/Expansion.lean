import EnergyReport.Config.Expansion
import EnergyReport.Proofs.Text.Search
import EnergyReport.Proofs.Text.Substitution

namespace EnergyReport.Config.Expansion

/-! What of a setting the expansion of references rewrites.

In a setting with a reference in braces, two dollar signs and a dollar sign with a name behind it
are rewritten as well. -/

/-- A reference in braces at the beginning of a text, what it stands for, and what follows it. -/
inductive Braced : Text → Part → Text → Prop where
  | required {name rest : Text} (closed : '\x7d' ∉ name)
      (noDefault : separator <:+: name → separator <+: name) :
      Braced (opening ++ name ++ '\x7d' :: rest) (.reference name none) rest
  | defaulted {name fallback rest : Text} (closed : '\x7d' ∉ name ++ fallback)
      (named : name ≠ []) (first : ¬ separator <:+: name) :
      Braced (opening ++ (name ++ separator ++ fallback) ++ '\x7d' :: rest)
        (.reference name (some fallback)) rest

/-- What is rewritten in a setting with a reference in braces. -/
inductive Rewritten : Text → Part → Text → Prop where
  | braced {text rest : Text} {part : Part} (braced : Braced text part rest) :
      Rewritten text part rest
  | doubled {rest : Text} : Rewritten ('$' :: '$' :: rest) (.verbatim ['$']) rest
  | named {name rest : Text} (named : name ≠ []) (letters : ∀ c ∈ name, isNameChar c)
      (ends : ∀ c ∈ rest.head?, isNameChar c = false) :
      Rewritten ('$' :: (name ++ rest)) (.reference name none) rest

/-- A setting whose dollar signs outside references in braces stand alone. -/
inductive OnlyBraced : Text → Prop where
  | nil : OnlyBraced []
  | kept {c : Char} {rest : Text} (plain : ∀ part after, ¬ Rewritten (c :: rest) part after)
      (following : OnlyBraced rest) : OnlyBraced (c :: rest)
  | reference {text rest : Text} {part : Part} (braced : Braced text part rest)
      (following : OnlyBraced rest) : OnlyBraced text

section Expands

variable (Form : Text → Part → Text → Prop) (environment : Text → Option Text)

/-- The expansion that rewrites a form and keeps all other characters; the first error counts. -/
inductive Expands : Text → Except Text Text → Prop where
  | nil : Expands [] (.ok [])
  | kept {c : Char} {rest : Text} {result : Except Text Text}
      (plain : ∀ part after, ¬ Form (c :: rest) part after) (following : Expands rest result) :
      Expands (c :: rest) (result.map (c :: ·))
  | replaced {text rest value : Text} {part : Part} {result : Except Text Text}
      (formed : Form text part rest) (known : resolve environment part = .ok value)
      (following : Expands rest result) : Expands text (result.map (value ++ ·))
  | failed {text rest name : Text} {part : Part} (formed : Form text part rest)
      (unset : resolve environment part = .error name) : Expands text (.error name)

end Expands

section Forms

variable {text rest content name : Text} {part : Part}

theorem braced_of_cut (closes : Text.cut? ['\x7d'] text = some (content, rest)) :
    Braced (opening ++ text) (braced content) rest := by
  obtain ⟨rfl, closed⟩ := Text.cut?_singleton_eq_some_iff.mp closes
  rw [← List.append_assoc]
  unfold braced
  cases separated : Text.cut? separator content with
  | none => exact .required closed fun within => absurd within (Text.cut?_eq_none_iff.mp separated)
  | some sides =>
      obtain ⟨before, fallback⟩ := sides
      obtain ⟨split, first⟩ := Text.cut?_eq_some_iff.mp separated
      cases before with
      | nil => exact .required closed fun _ => ⟨fallback, split.symm⟩
      | cons c name =>
          subst split
          refine .defaulted (fun member => closed ?_) (List.cons_ne_nil c name) fun within => ?_
          · rw [List.append_assoc, List.mem_append, List.mem_append]
            exact (List.mem_append.mp member).imp_right .inr
          · obtain ⟨front, back, same⟩ := within
            apply first front.length
            · simp [← same, separator]
            · rw [← same]
              simp

theorem cut_of_braced (formed : Braced text part rest) :
    ∃ content, text = opening ++ (content ++ '\x7d' :: rest) ∧ '\x7d' ∉ content ∧
      braced content = part := by
  cases formed with
  | @required name _ closed noDefault =>
      refine ⟨name, by simp, closed, ?_⟩
      unfold braced
      cases separated : Text.cut? separator name with
      | none => rfl
      | some sides =>
          obtain ⟨before, fallback⟩ := sides
          obtain ⟨split, first⟩ := Text.cut?_eq_some_iff.mp separated
          cases before with
          | nil => rfl
          | cons c before =>
              have within : separator <:+: name := ⟨c :: before, fallback, split.symm⟩
              exact absurd (noDefault within) (first 0 (Nat.succ_pos _))
  | @defaulted name fallback _ closed named first =>
      refine ⟨name ++ separator ++ fallback, by simp, ?_, ?_⟩
      · rw [List.mem_append] at closed
        simp only [separator, List.mem_append]
        simp_all
      · have separated :
            Text.cut? separator (name ++ separator ++ fallback) = some (name, fallback) := by
          refine Text.cut?_eq_some_iff.mpr ⟨rfl, fun start earlier stands => first ?_⟩
          rw [List.append_assoc, List.drop_append_of_le_length (Nat.le_of_lt earlier)] at stands
          -- A colon at the end of the name is not the one of the separator.
          match behind : name.drop start, stands with
          | [], _ => simp at behind; omega
          | [_], stands => simp [separator] at stands
          | c :: d :: _, stands =>
              have here : separator <+: name.drop start := by simpa [behind, separator] using stands
              exact here.isInfix.trans (List.drop_suffix start name).isInfix
        obtain ⟨c, more, rfl⟩ := List.exists_cons_of_ne_nil named
        rw [braced, separated]

theorem part?_of_rewritten (formed : Rewritten text part rest) :
    part? text = some ([part], rest) := by
  cases formed with
  | braced formed =>
      obtain ⟨content, rfl, closed, rfl⟩ := cut_of_braced formed
      have closes : Text.cut? ['\x7d'] (content ++ '\x7d' :: rest) = some (content, rest) :=
        Text.cut?_singleton_eq_some_iff.mpr ⟨rfl, closed⟩
      simp only [opening, List.cons_append, List.nil_append, part?, closes]
  | doubled => rfl
  | @named name _ named letters ends =>
      obtain ⟨c, more, rfl⟩ := List.exists_cons_of_ne_nil named
      have letter : isNameChar c := letters c List.mem_cons_self
      have notBrace : c ≠ '\x7b' := by rintro rfl; exact absurd letter (by decide)
      have notDollar : c ≠ '$' := by rintro rfl; exact absurd letter (by decide)
      have taken : (c :: more ++ rest).takeWhile isNameChar = c :: more := by
        rw [List.takeWhile_append_of_pos letters]
        cases rest with
        | nil => simp
        | cons d rest => simp [ends d rfl]
      rw [List.cons_append] at taken ⊢
      rw [part?]
      · simp [taken]
      · simpa using notBrace
      · simpa using notDollar

theorem rewritten_unique {part' : Part} {rest' : Text} (formed : Rewritten text part rest)
    (formed' : Rewritten text part' rest') : part' = part ∧ rest' = rest := by
  have same := (part?_of_rewritten formed').symm.trans (part?_of_rewritten formed)
  simpa using same

theorem rewritten_dollar (formed : Rewritten text part rest) : ∃ after, text = '$' :: after := by
  cases formed with
  | braced formed =>
      obtain ⟨content, rfl, -⟩ := cut_of_braced formed
      exact ⟨_, rfl⟩
  | doubled => exact ⟨_, rfl⟩
  | named => exact ⟨_, rfl⟩

theorem rewritten_verbatim {kept : Text} (formed : Rewritten text (.verbatim kept) rest) :
    text = '$' :: '$' :: rest := by
  cases formed with
  | braced formed => cases formed
  | doubled => rfl

/-- A part that is found is rewritten, or it is a dollar sign that opens nothing and stays. -/
theorem part?_eq_some {found : List Part} (taken : part? text = some (found, rest)) :
    (∃ part, found = [part] ∧ Rewritten text part rest) ∨
      ∃ kept, found = [.verbatim kept] ∧ text = kept ++ rest ∧ (kept = ['$'] ∨ kept = opening) ∧
        ∀ part after, ¬ Rewritten text part after := by
  have stays {kept : Text} (same : found = [.verbatim kept])
      (alone : ∀ after, text ≠ '$' :: '$' :: after) (part : Part) (after : Text) :
      ¬ Rewritten text part after := by
    intro formed
    have parts := (part?_of_rewritten formed).symm.trans taken
    simp only [same, Option.some.injEq, Prod.mk.injEq, List.cons.injEq, and_true] at parts
    obtain ⟨rfl, rfl⟩ := parts
    exact alone _ (rewritten_verbatim formed)
  revert taken stays
  fun_cases part? text with
  | case1 inside content after closes =>
      rintro ⟨⟩ -
      exact .inl ⟨_, rfl, .braced (braced_of_cut closes)⟩
  | case2 inside unclosed =>
      rintro ⟨⟩ stays
      exact .inr ⟨opening, rfl, rfl, .inr rfl, stays rfl (by simp)⟩
  | case3 =>
      rintro ⟨⟩ -
      exact .inl ⟨_, rfl, .doubled⟩
  | case4 inside notBrace notDollar name nameless =>
      rintro ⟨⟩ stays
      exact .inr ⟨['$'], rfl, rfl, .inl rfl, stays rfl (by simpa using notDollar)⟩
  | case5 inside notBrace notDollar name named =>
      rintro ⟨⟩ -
      have whole : name ++ inside.dropWhile isNameChar = inside := List.takeWhile_append_dropWhile
      have behind : inside.drop name.length = inside.dropWhile isNameChar := by
        conv_lhs => rw [← whole, List.drop_left]
      have letters (c : Char) (member : c ∈ name) : isNameChar c :=
        List.all_eq_true.mp List.all_takeWhile c member
      have ends (c : Char) (first : (inside.dropWhile isNameChar).head? = some c) :
          isNameChar c = false := by
        simpa [first] using List.head?_dropWhile_not isNameChar inside
      have starts := Rewritten.named (by simpa using named) letters ends
      rw [whole] at starts
      exact .inl ⟨_, rfl, behind ▸ starts⟩
  | case6 =>
      intro taken
      cases taken

end Forms

section Expand

variable {environment : Text → Option Text} {Form : Text → Part → Text → Prop}

theorem takesPart_part? : Text.TakesPart fun (_ : Option Char) rest => part? rest := by
  intro _ list found rest taken
  obtain ⟨part, -, formed⟩ | ⟨kept, -, rfl, spelled, -⟩ := part?_eq_some taken
  · cases formed with
    | braced formed =>
        obtain ⟨content, rfl, -⟩ := cut_of_braced formed
        exact ⟨opening ++ (content ++ ['\x7d']), by simp [opening], by simp⟩
    | doubled => exact ⟨['$', '$'], by simp, rfl⟩
    | @named name => exact ⟨'$' :: name, by simp, rfl⟩
  · exact ⟨kept, by rcases spelled with rfl | rfl <;> simp [opening], rfl⟩

theorem resolveAll_cons_of_ok {part : Part} {value : Text} {others : List Part}
    (known : resolve environment part = .ok value) :
    resolveAll environment (part :: others) =
      (resolveAll environment others).map (value ++ ·) := by
  rw [resolveAll, known]
  rfl

theorem resolveAll_verbatim (kept : Text) (others : List Part) :
    resolveAll environment (.verbatim kept :: others) =
      (resolveAll environment others).map (kept ++ ·) :=
  resolveAll_cons_of_ok rfl

theorem resolveAll_cons_of_error {part : Part} {name : Text} {others : List Part}
    (unset : resolve environment part = .error name) :
    resolveAll environment (part :: others) = .error name := by
  rw [resolveAll, unset]
  rfl

theorem expands_of_substitution {before : Option Char} {text : Text} {found : List Part}
    (substituted : Text.Substitution (fun _ rest => part? rest) (fun c => Part.verbatim [c])
      before text found) :
    Expands Rewritten environment text (resolveAll environment found) := by
  induction substituted with
  | nil => exact .nil
  | @copied _ c rest _ missed following ih =>
      rw [resolveAll_verbatim]
      refine .kept (fun part after formed => ?_) ih
      rw [part?_of_rewritten formed] at missed
      cases missed
  | @replaced _ front rest _ others nonempty found following ih =>
      obtain ⟨part, rfl, formed⟩ | ⟨kept, rfl, same, spelled, plain⟩ := part?_eq_some found
      · cases resolved : resolve environment part with
        | ok value =>
            rw [List.singleton_append, resolveAll_cons_of_ok resolved]
            exact .replaced formed resolved ih
        | error name =>
            rw [List.singleton_append, resolveAll_cons_of_error resolved]
            exact .failed formed resolved
      · rw [List.singleton_append, resolveAll_verbatim]
        obtain rfl := List.append_cancel_right same
        rcases spelled with rfl | rfl
        · exact .kept plain ih
        · have brace : Expands Rewritten environment ('\x7b' :: rest) _ :=
            .kept (fun part after formed => by simpa using rewritten_dollar formed) ih
          have both := brace.kept plain
          generalize resolveAll environment others = result at both ⊢
          cases result <;> exact both

/-- At each place at most one form begins, and none at the end. -/
structure IsFunctional (Form : Text → Part → Text → Prop) : Prop where
  nonempty : ∀ ⦃text part rest⦄, Form text part rest → text ≠ []
  unique : ∀ ⦃text part rest part' rest'⦄, Form text part rest → Form text part' rest' →
    part' = part ∧ rest' = rest

theorem isFunctional_rewritten : IsFunctional Rewritten where
  nonempty _ _ _ formed := by
    obtain ⟨after, rfl⟩ := rewritten_dollar formed
    exact List.cons_ne_nil _ _
  unique _ _ _ _ _ := rewritten_unique

theorem isFunctional_braced : IsFunctional Braced where
  nonempty _ _ _ formed := isFunctional_rewritten.nonempty (.braced formed)
  unique _ _ _ _ _ formed formed' := rewritten_unique (.braced formed) (.braced formed')

section Inversion

variable {text rest value name : Text} {part : Part} {c : Char} {result : Except Text Text}

theorem Expands.of_nil (functional : IsFunctional Form)
    (expands : Expands Form environment [] result) : result = .ok [] := by
  cases expands with
  | nil => rfl
  | replaced formed => exact absurd rfl (functional.nonempty formed)
  | failed formed => exact absurd rfl (functional.nonempty formed)

theorem Expands.of_plain (plain : ∀ part after, ¬ Form (c :: rest) part after)
    (expands : Expands Form environment (c :: rest) result) :
    ∃ others, result = others.map (c :: ·) ∧ Expands Form environment rest others := by
  cases expands with
  | kept _ following => exact ⟨_, rfl, following⟩
  | replaced formed => exact absurd formed (plain _ _)
  | failed formed => exact absurd formed (plain _ _)

theorem Expands.of_known (functional : IsFunctional Form) (formed : Form text part rest)
    (known : resolve environment part = .ok value)
    (expands : Expands Form environment text result) :
    ∃ others, result = others.map (value ++ ·) ∧ Expands Form environment rest others := by
  cases expands with
  | nil => exact absurd rfl (functional.nonempty formed)
  | kept plain => exact absurd formed (plain _ _)
  | replaced formed' known' following =>
      obtain ⟨rfl, rfl⟩ := functional.unique formed formed'
      obtain rfl := Except.ok.inj (known.symm.trans known')
      exact ⟨_, rfl, following⟩
  | failed formed' unset =>
      obtain ⟨rfl, rfl⟩ := functional.unique formed formed'
      cases known.symm.trans unset

theorem Expands.of_unset (functional : IsFunctional Form) (formed : Form text part rest)
    (unset : resolve environment part = .error name)
    (expands : Expands Form environment text result) : result = .error name := by
  cases expands with
  | nil => exact absurd rfl (functional.nonempty formed)
  | kept plain => exact absurd formed (plain _ _)
  | replaced formed' known =>
      obtain ⟨rfl, rfl⟩ := functional.unique formed formed'
      cases known.symm.trans unset
  | failed formed' unset' =>
      obtain ⟨rfl, rfl⟩ := functional.unique formed formed'
      exact unset'.symm.trans unset

theorem Expands.eq_of_expands (functional : IsFunctional Form) {result' : Except Text Text}
    (expands : Expands Form environment text result)
    (expands' : Expands Form environment text result') : result' = result := by
  induction expands generalizing result' with
  | nil => exact expands'.of_nil functional
  | kept plain following ih =>
      obtain ⟨others, rfl, following'⟩ := expands'.of_plain plain
      rw [ih following']
  | replaced formed known following ih =>
      obtain ⟨others, rfl, following'⟩ := expands'.of_known functional formed known
      rw [ih following']
  | failed formed unset => exact expands'.of_unset functional formed unset

end Inversion

/-- Without a reference in braces nothing is rewritten by an expansion of such references. -/
theorem expands_braced_of_not_infix {text : Text} (absent : ¬ opening <:+: text) :
    Expands Braced environment text (.ok text) := by
  induction text with
  | nil => exact .nil
  | cons c rest ih =>
      rw [List.infix_cons_iff, not_or] at absent
      refine .kept (fun part after formed => absent.1 ?_) (ih absent.2)
      obtain ⟨content, same, -⟩ := cut_of_braced formed
      exact same ▸ List.prefix_append _ _

theorem exists_expands_of_onlyBraced (environment : Text → Option Text) {text : Text}
    (only : OnlyBraced text) :
    ∃ result, Expands Rewritten environment text result ∧
      Expands Braced environment text result := by
  induction only with
  | nil => exact ⟨_, .nil, .nil⟩
  | kept plain following ih =>
      obtain ⟨result, every, inBraces⟩ := ih
      exact ⟨_, .kept plain every, .kept (fun _ _ formed => plain _ _ (.braced formed)) inBraces⟩
  | @reference _ _ part formed following ih =>
      obtain ⟨result, every, inBraces⟩ := ih
      cases resolved : resolve environment part with
      | ok value =>
          exact ⟨_, .replaced (.braced formed) resolved every, .replaced formed resolved inBraces⟩
      | error name => exact ⟨_, .failed (.braced formed) resolved, .failed formed resolved⟩

end Expand

/-! An environment in which every variable is set to a letter shows each dollar sign that goes
missing. -/

section Marked

def marked (_ : Text) : Option Text := some ['x']

theorem exists_resolveAll_marked (found : List Part) :
    ∃ out, resolveAll marked found = .ok out := by
  induction found with
  | nil => exact ⟨[], rfl⟩
  | cons part others ih =>
      obtain ⟨out, rest⟩ := ih
      cases part with
      | verbatim kept => exact ⟨kept ++ out, by rw [resolveAll_verbatim, rest]; rfl⟩
      | reference name fallback =>
          have known : resolve marked (.reference name fallback) = .ok ['x'] := rfl
          exact ⟨'x' :: out, by rw [resolveAll_cons_of_ok known, rest]; rfl⟩

variable {Form : Text → Part → Text → Prop} {text rest out : Text} {c : Char}

theorem tail_of_plain (plain : ∀ part after, ¬ Form (c :: rest) part after)
    (expands : Expands Form marked (c :: rest) (.ok out)) :
    ∃ others, out = c :: others ∧ Expands Form marked rest (.ok others) := by
  obtain ⟨others, same, following⟩ := expands.of_plain plain
  cases others with
  | ok others => exact ⟨others, Except.ok.inj same, following⟩
  | error name => cases same

theorem tail_of_formed {part : Part} {value : Text} (functional : IsFunctional Form)
    (formed : Form text part rest) (known : resolve marked part = .ok value)
    (expands : Expands Form marked text (.ok out)) :
    ∃ others, out = value ++ others ∧ Expands Form marked rest (.ok others) := by
  obtain ⟨others, same, following⟩ := expands.of_known functional formed known
  cases others with
  | ok others => exact ⟨others, Except.ok.inj same, following⟩
  | error name => cases same

theorem resolve_marked_of_braced {part : Part} (formed : Braced text part rest) :
    resolve marked part = .ok ['x'] := by
  cases formed <;> rfl

theorem replicate_append_cons (count : Nat) (text : Text) :
    List.replicate count '$' ++ '$' :: text = List.replicate (count + 1) '$' ++ text := by
  rw [List.replicate_succ', List.append_assoc, List.singleton_append]

/-- A dollar sign comes out at the place of a form only where there were two. -/
theorem doubled_of_dollar {part : Part} (rewritten : Rewritten text part rest)
    (every : Expands Rewritten marked text (.ok ('$' :: out))) :
    text = '$' :: '$' :: rest ∧ Expands Rewritten marked rest (.ok out) := by
  have tail (value : Text) (known : resolve marked part = .ok value) :=
    tail_of_formed isFunctional_rewritten rewritten known every
  cases rewritten with
  | braced formed =>
      obtain ⟨_, wrong, -⟩ := tail ['x'] (resolve_marked_of_braced formed)
      simp at wrong
  | doubled =>
      obtain ⟨_, same, following⟩ := tail ['$'] rfl
      obtain rfl := (List.cons.inj same).2
      exact ⟨rfl, following⟩
  | named =>
      obtain ⟨_, wrong, -⟩ := tail ['x'] rfl
      simp at wrong

theorem brace_of_braced_dollars {count : Nat} {part : Part}
    (formed : Braced (List.replicate (count + 1) '$' ++ text) part rest) :
    ∃ content, text = '\x7b' :: content := by
  obtain ⟨content, same, -⟩ := cut_of_braced formed
  cases count with
  | succ count => simp [opening, List.replicate_succ] at same
  | zero => exact ⟨content ++ '\x7d' :: rest, by simpa [opening] using same⟩

/-- Dollar signs in front of a text are not all lost when only references in braces count. -/
theorem not_expands_of_dollars (count : Nat)
    (inBraces : Expands Braced marked (List.replicate (count + 1) '$' ++ text) (.ok out)) :
    ¬ Expands Rewritten marked text (.ok out) := by
  intro every
  -- A pair of dollar signs that becomes one leaves a longer row in front of a shorter text.
  induction length : text.length using Nat.strongRecOn generalizing count text out with
  | ind n ih =>
    by_cases opens : ∃ part after, Braced (List.replicate (count + 1) '$' ++ text) part after
    · obtain ⟨part, after, formed⟩ := opens
      obtain ⟨others, rfl, -⟩ :=
        tail_of_formed isFunctional_braced formed (resolve_marked_of_braced formed) inBraces
      obtain ⟨content, rfl⟩ := brace_of_braced_dollars formed
      obtain ⟨_, wrong, -⟩ := tail_of_plain
        (fun part after formed => by simpa using rewritten_dollar formed) every
      simp at wrong
    · rw [List.replicate_succ, List.cons_append] at inBraces opens
      obtain ⟨others, rfl, inBraces'⟩ :=
        tail_of_plain (fun part after formed => opens ⟨part, after, formed⟩) inBraces
      cases text with
      | nil => cases every.of_nil isFunctional_rewritten
      | cons c rest =>
          by_cases rewrites : ∃ part after, Rewritten (c :: rest) part after
          · obtain ⟨part, after, rewritten⟩ := rewrites
            obtain ⟨doubled, every'⟩ := doubled_of_dollar rewritten every
            obtain ⟨rfl, rfl⟩ := List.cons.inj doubled
            rw [replicate_append_cons, replicate_append_cons] at inBraces'
            have shorter : after.length < n := by
              rw [← length, List.length_cons, List.length_cons]
              omega
            exact ih after.length shorter (count + 1) inBraces' every' rfl
          · obtain ⟨_, same, every'⟩ :=
              tail_of_plain (fun part after formed => rewrites ⟨part, after, formed⟩) every
            obtain ⟨rfl, rfl⟩ := List.cons.inj same
            rw [replicate_append_cons] at inBraces'
            exact ih rest.length (by simp [← length]) count inBraces' every' rfl

theorem onlyBraced_of_expands (inBraces : Expands Braced marked text (.ok out))
    (every : Expands Rewritten marked text (.ok out)) : OnlyBraced text := by
  induction length : text.length using Nat.strongRecOn generalizing text out with
  | ind n ih =>
    cases text with
    | nil => exact .nil
    | cons c rest =>
        by_cases rewrites : ∃ part after, Rewritten (c :: rest) part after
        · obtain ⟨part, after, rewritten⟩ := rewrites
          by_cases braced : Braced (c :: rest) part after
          · have known := resolve_marked_of_braced braced
            obtain ⟨others, rfl, every'⟩ :=
              tail_of_formed isFunctional_rewritten rewritten known every
            obtain ⟨_, same, inBraces'⟩ := tail_of_formed isFunctional_braced braced known inBraces
            obtain rfl := List.append_cancel_left same
            obtain ⟨content, shape, -⟩ := cut_of_braced braced
            refine .reference braced (ih after.length ?_ inBraces' every' rfl)
            rw [← length, shape, List.length_append, List.length_append, List.length_cons]
            omega
          · have plain (part' : Part) (after' : Text) : ¬ Braced (c :: rest) part' after' := by
              intro formed
              obtain ⟨rfl, rfl⟩ := rewritten_unique rewritten (.braced formed)
              exact braced formed
            obtain ⟨others, rfl, inBraces'⟩ := tail_of_plain plain inBraces
            obtain ⟨_, dollar⟩ := rewritten_dollar rewritten
            obtain rfl := (List.cons.inj dollar).1
            obtain ⟨doubled, every'⟩ := doubled_of_dollar rewritten every
            obtain rfl := (List.cons.inj doubled).2
            exact absurd every' (not_expands_of_dollars 0 inBraces')
        · have plain : ∀ part after, ¬ Rewritten (c :: rest) part after :=
            fun part after formed => rewrites ⟨part, after, formed⟩
          obtain ⟨others, rfl, every'⟩ := tail_of_plain plain every
          obtain ⟨_, same, inBraces'⟩ :=
            tail_of_plain (fun part after formed => plain part after (.braced formed)) inBraces
          obtain rfl := (List.cons.inj same).2
          exact .kept plain (ih rest.length (by simp [← length]) inBraces' every' rfl)

end Marked

theorem contains_opening_iff {text : Text} : Text.contains opening text ↔ opening <:+: text := by
  rw [Text.contains, Option.isSome_iff_ne_none, ne_eq, Text.cut?_eq_none_iff, not_not]

/-- A setting with a reference in braces has every form of reference replaced and its double
dollar signs halved. So only the settings whose other dollar signs stand alone come out as the
references in braces say. -/
theorem expand_rewrites_dollars (text : Text) :
    (∀ environment result, expand environment text = result ↔
      if opening <:+: text then Expands Rewritten environment text result
      else result = .ok text) ∧
    ((∀ environment, Expands Braced environment text (expand environment text)) ↔
      ¬ opening <:+: text ∨ OnlyBraced text) := by
  by_cases within : opening <:+: text
  · have expanded (environment : Text → Option Text) :
        expand environment text = resolveAll environment (parts text) :=
      if_pos (contains_opening_iff.mpr within)
    have every (environment : Text → Option Text) :
        Expands Rewritten environment text (expand environment text) :=
      expanded environment ▸
        expands_of_substitution (Text.substitution_substitute takesPart_part? _ text)
    simp only [within, if_true, not_true, false_or]
    refine ⟨fun environment result => ⟨fun same => same ▸ every environment, fun expands =>
      expands.eq_of_expands isFunctional_rewritten (every environment)⟩, fun inBraces => ?_,
      fun only environment => ?_⟩
    · obtain ⟨out, resolved⟩ := exists_resolveAll_marked (parts text)
      have known : expand marked text = .ok out := (expanded marked).trans resolved
      exact onlyBraced_of_expands (known ▸ inBraces marked) (known ▸ every marked)
    · obtain ⟨result, rewritten, braced⟩ :=
        exists_expands_of_onlyBraced environment only
      rw [rewritten.eq_of_expands isFunctional_rewritten (every environment)]
      exact braced
  · have same (environment : Text → Option Text) : expand environment text = .ok text :=
      if_neg (mt contains_opening_iff.mp within)
    simp only [within, if_false, not_false_eq_true, true_or, iff_true, same]
    exact ⟨fun _ _ => eq_comm, fun _ => expands_braced_of_not_infix within⟩

example :
    expand (fun _ => none) "covers/$draft/$\x7bname:-a\x7d.png".toList =
      .error "draft".toList := by
  decide

end EnergyReport.Config.Expansion
