import EnergyReport.Json.Reader
import EnergyReport.Json.Writer
import EnergyReport.Proofs.Text.Basic
import Mathlib.Data.List.TakeWhile

namespace EnergyReport.Json

/-! An object that is written is read again, and an object that is read has each key once. -/

/-- The value that a scalar stands for. -/
def Scalar.toJson : Scalar → Json
  | .text value => .string value
  | .natural value => .number (.natural value)

/-- A character that stands for itself between quotation marks. -/
def isVerbatim (c : Char) : Bool :=
  c ≠ '"' && c ≠ '\\' && !(c.toNat < 0x20)

/-- A scalar that is written as it must be: a text without escapes, or a number of 64 bits. -/
def Scalar.Writable : Scalar → Prop
  | .text value => ∀ c ∈ value, isVerbatim c
  | .natural value => value < significandLimit

instance : DecidablePred Scalar.Writable
  | .text value => decidable_of_iff (value.all isVerbatim) List.all_eq_true
  | .natural value => inferInstanceAs (Decidable (value < significandLimit))

/-- A member that is written as it must be. -/
def WritableMember (member : Text × Scalar) : Prop :=
  (∀ c ∈ member.1, isVerbatim c) ∧ member.2.Writable

/-- A member as it is read. -/
def memberOf (member : Text × Scalar) : Text × Json :=
  (member.1, member.2.toJson)

/-- What may stand after a member: the comma before another one, or the brace at the end. -/
inductive EndsMember : Text → Prop where
  | comma (rest : Text) : EndsMember (',' :: rest)
  | brace (rest : Text) : EndsMember ('\x7d' :: rest)

/-! ### Strings -/

section Strings

variable {text : Text}

theorem cutString_verbatim (verbatim : ∀ c ∈ text, isVerbatim c) (rest : Text) :
    cutString (text ++ '"' :: rest) = some (text, rest) := by
  induction text with
  | nil => rfl
  | cons c text ih =>
      have here := verbatim c List.mem_cons_self
      simp only [isVerbatim, Bool.and_eq_true, decide_eq_true_eq] at here
      have there := ih fun other member => verbatim other (List.mem_cons_of_mem c member)
      rw [List.cons_append, cutString, there]
      · rfl
      · exact fun same => here.1.1 same
      · exact fun _ _ same _ => here.1.2 same

theorem unescape_verbatim (verbatim : ∀ c ∈ text, isVerbatim c) :
    unescape text = some (text.map Element.char) := by
  induction text with
  | nil => rfl
  | cons c text ih =>
      have here := verbatim c List.mem_cons_self
      simp only [isVerbatim, Bool.and_eq_true, decide_eq_true_eq, Bool.not_eq_true',
        decide_eq_false_iff_not] at here
      have there := ih fun other member => verbatim other (List.mem_cons_of_mem c member)
      rw [unescape, there]
      · simp [here.1.2, here.2]
      · exact fun _ _ _ _ _ same _ => here.1.2 same
      · exact fun _ _ same _ => here.1.2 same

theorem joinElements_chars (text : Text) : joinElements (text.map Element.char) = some text := by
  induction text with
  | nil => rfl
  | cons c text ih => rw [List.map_cons, joinElements, ih, Option.map_some]

theorem readString_verbatim (verbatim : ∀ c ∈ text, isVerbatim c) (rest : Text) :
    readString (text ++ '"' :: rest) = some (text, rest) := by
  simp only [readString, cutString_verbatim verbatim, Option.bind_eq_bind, Option.bind_some,
    unescape_verbatim verbatim, joinElements_chars]
  rfl

end Strings

/-! ### Numbers -/

theorem le_ofDigitChars (digits : List Char) (value : Nat) :
    value ≤ Nat.ofDigitChars 10 digits value := by
  rw [Nat.ofDigitChars_eq_ofDigitChars_zero]
  exact Nat.le_add_right_of_le (Nat.le_mul_of_pos_left value (Nat.pow_pos (by omega)))

/-- All digits are gathered where the number fits. -/
theorem gatherDigits_of_lt {digits : List Char} {value : Nat}
    (fits : Nat.ofDigitChars 10 digits value < significandLimit) :
    gatherDigits value digits = (Nat.ofDigitChars 10 digits value, []) := by
  induction digits generalizing value with
  | nil => rfl
  | cons digit digits ih =>
      rw [Nat.ofDigitChars_cons, Nat.mul_comm] at fits ⊢
      have small := Nat.lt_of_le_of_lt (le_ofDigitChars _ _) fits
      rw [gatherDigits, if_pos small, ih fits]

/-- Only zero begins with a zero. -/
theorem head?_toDigits_of_pos {n : Nat} (positive : 0 < n) :
    (Nat.toDigits 10 n).head? ≠ some '0' := by
  induction n using Nat.strongRecOn with
  | ind n ih =>
      by_cases small : n < 10
      · have checked : ∀ digit < 10, 0 < digit → Nat.digitChar digit ≠ '0' := by decide
        rw [Nat.toDigits_of_lt_base small]
        simpa using checked n small positive
      · have fewer := ih (n / 10) (by omega) (by omega)
        rw [Nat.toDigits_of_base_le (by omega) (by omega), List.head?_append]
        cases first : (Nat.toDigits 10 (n / 10)).head? with
        | none => simp [Nat.toDigits_ne_nil] at first
        | some c => simpa [first] using fewer

theorem readNumber_toDigits {n : Nat} (fits : n < significandLimit) {rest : Text}
    (ends : EndsMember rest) :
    readNumber false (Nat.toDigits 10 n ++ rest) = some (.natural n, rest) := by
  have digits : ∀ c ∈ Nat.toDigits 10 n, c.isDigit := fun _ member =>
    Nat.isDigit_of_mem_toDigits (by omega) (by omega) member
  have value := Nat.ofDigitChars_ten_toDigits (n := n)
  have gathered : gatherDigits 0 (Nat.toDigits 10 n) = (n, []) := by
    rw [gatherDigits_of_lt (value.symm ▸ fits), value]
  have noZero : ¬ ((Nat.toDigits 10 n).head? = some '0' ∧ 1 < (Nat.toDigits 10 n).length) := by
    rintro ⟨zero, more⟩
    cases n with
    | zero => simp at more
    | succ n => exact head?_toDigits_of_pos (Nat.succ_pos n) zero
  have taken : (Nat.toDigits 10 n ++ rest).takeWhile Char.isDigit = Nat.toDigits 10 n := by
    rw [List.takeWhile_append_of_pos digits]
    cases ends <;> exact List.append_nil _
  have left : (Nat.toDigits 10 n ++ rest).dropWhile Char.isDigit = rest := by
    rw [List.dropWhile_append_of_pos digits]
    cases ends <;> rfl
  simp only [readNumber, taken, left, gathered]
  rw [if_neg (by simpa [Nat.toDigits_ne_nil] using noZero)]
  cases ends <;> rfl

/-! ### Values and members -/

theorem skipBlanks_cons {c : Char} {rest : Text}
    (dark : (c = ' ' || c = '\n' || c = '\t' || c = '\r') = false) :
    skipBlanks (c :: rest) = c :: rest := by
  simp only [skipBlanks, List.dropWhile_cons, dark, Bool.false_eq_true, ↓reduceIte]

theorem readValue_write {scalar : Scalar} (writable : scalar.Writable) {rest : Text}
    (ends : EndsMember rest) (fuel depth : Nat) :
    readValue (fuel + 1) depth (scalar.write ++ rest) = some (scalar.toJson, rest) := by
  cases scalar with
  | text value =>
      have opens : Scalar.write (.text value) ++ rest = '"' :: (value ++ '"' :: rest) := by
        simp [Scalar.write, writeText]
      rw [opens, readValue, skipBlanks_cons rfl]
      simp only [readString_verbatim writable, Option.map_some]
      rfl
  | natural value =>
      have read := readNumber_toDigits writable ends
      obtain ⟨digit, more, digits⟩ : ∃ digit more, Nat.toDigits 10 value = digit :: more :=
        List.exists_cons_of_ne_nil Nat.toDigits_ne_nil
      have isDigit : digit.isDigit := by
        have member : digit ∈ Nat.toDigits 10 value := by simp [digits]
        exact Nat.isDigit_of_mem_toDigits (by omega) (by omega) member
      have notA {c : Char} (other : c.isDigit = false) : digit ≠ c := by
        rintro rfl
        simp [other] at isDigit
      rw [digits, List.cons_append] at read
      rw [Scalar.write, digits, List.cons_append, readValue, skipBlanks_cons (by simp [notA])]
      split
      case h_8 =>
        rw [read]
        rfl
      all_goals
        rename_i same
        exact absurd (List.cons.inj same).1 (notA rfl)

theorem insertMember_of_new {key : Text} {members : List (Text × Json)}
    (new : key ∉ members.map Prod.fst) (value : Json) :
    insertMember key value members = members ++ [(key, value)] := by
  induction members with
  | nil => rfl
  | cons member members ih =>
      simp only [List.map_cons, List.mem_cons, not_or] at new
      rw [insertMember, if_neg (Ne.symm new.1), ih new.2, List.cons_append]

/-- After the first member the object is over, or the next member follows. -/
theorem readMembers_member {member : Text × Scalar} (writable : WritableMember member)
    {before : List (Text × Json)} (new : member.1 ∉ before.map Prod.fst)
    (fuel depth : Nat) (rest : Text) :
    readMembers (fuel + 2) depth before (writeMember member ++ '\x7d' :: rest) =
        some (before ++ [memberOf member], rest) ∧
      readMembers (fuel + 2) depth before (writeMember member ++ ',' :: rest) =
        readMembers (fuel + 1) depth (before ++ [memberOf member]) rest := by
  obtain ⟨key, value⟩ := member
  have opens (rest : Text) :
      writeMember (key, value) ++ rest = '"' :: (key ++ '"' :: ':' :: (value.write ++ rest)) := by
    simp [writeMember, writeText]
  have quote (rest : Text) : skipBlanks ('"' :: rest) = '"' :: rest := skipBlanks_cons rfl
  have colon (rest : Text) : skipBlanks (':' :: rest) = ':' :: rest := skipBlanks_cons rfl
  have comma (rest : Text) : skipBlanks (',' :: rest) = ',' :: rest := skipBlanks_cons rfl
  have brace (rest : Text) : skipBlanks ('\x7d' :: rest) = '\x7d' :: rest := skipBlanks_cons rfl
  constructor
  · simp only [opens, readMembers, quote, readString_verbatim writable.1, colon,
      readValue_write writable.2 (.brace rest), insertMember_of_new new, brace, memberOf]
  · simp only [opens, readMembers, quote, readString_verbatim writable.1, colon,
      readValue_write writable.2 (.comma rest), insertMember_of_new new, comma, memberOf]

theorem new_of_distinct {key : Text} {before after : List Text}
    (distinct : (before ++ key :: after).Nodup) : key ∉ before := fun old =>
  (List.nodup_append.mp distinct).2.2 key old key List.mem_cons_self rfl

theorem readMembers_write {member : Text × Scalar} {others : List (Text × Scalar)}
    (writable : ∀ other ∈ member :: others, WritableMember other) (before : List (Text × Json))
    (distinct : (before.map Prod.fst ++ (member :: others).map Prod.fst).Nodup)
    {fuel : Nat} (enough : others.length ≤ fuel) (depth : Nat) (rest : Text) :
    readMembers (fuel + 2) depth before
        (List.intercalate [','] ((member :: others).map writeMember) ++ '\x7d' :: rest) =
      some (before ++ (member :: others).map memberOf, rest) := by
  induction others generalizing member before fuel with
  | nil =>
      have first := readMembers_member (writable member List.mem_cons_self)
        (new_of_distinct distinct) fuel depth rest
      simpa using first.1
  | cons next others ih =>
      have first := readMembers_member (writable member List.mem_cons_self)
        (new_of_distinct distinct) fuel depth
      obtain ⟨fuel, rfl⟩ : ∃ less, fuel = less + 1 :=
        Nat.exists_eq_succ_of_ne_zero (Nat.ne_of_gt (Nat.lt_of_lt_of_le (Nat.succ_pos _) enough))
      have distinct' : ((before ++ [memberOf member]).map Prod.fst ++
          (next :: others).map Prod.fst).Nodup := by
        simpa [memberOf] using distinct
      have later := ih (fun other listed => writable other (List.mem_cons_of_mem member listed))
        _ distinct' (Nat.le_of_succ_le_succ enough)
      rw [List.map_cons, List.map_cons, List.intercalate_cons_cons, List.append_assoc,
        List.append_assoc, List.singleton_append, (first _).2, ← List.map_cons, later]
      simp

theorem length_le_intercalate (members : List (Text × Scalar)) :
    members.length ≤ (List.intercalate [','] (members.map writeMember)).length := by
  induction members with
  | nil => exact Nat.le_refl 0
  | cons member others ih =>
      have some : 0 < (writeMember member).length := by simp [writeMember, writeText]
      cases others with
      | nil => simpa using Nat.succ_le_of_lt some
      | cons next others =>
          simp only [List.map_cons, List.intercalate_cons_cons, List.length_append,
            List.length_cons] at ih ⊢
          omega

theorem read_writeObject {members : List (Text × Scalar)}
    (writable : ∀ member ∈ members, WritableMember member)
    (distinct : (members.map Prod.fst).Nodup) :
    read (writeObject members) = some (.object (members.map memberOf)) := by
  have size := length_le_intercalate members
  have opens : writeObject members =
      '\x7b' :: (List.intercalate [','] (members.map writeMember) ++ '\x7d' :: []) := by
    simp [writeObject]
  have brace (rest : Text) : skipBlanks ('\x7b' :: rest) = '\x7b' :: rest := skipBlanks_cons rfl
  suffices value : ∀ fuel, members.length ≤ fuel →
      readValue (fuel + 3) nestingLimit (writeObject members) =
        some (.object (members.map memberOf), []) by
    obtain ⟨fuel, enough⟩ : ∃ fuel, 2 * (writeObject members).length + 2 = fuel + 3 ∧
        members.length ≤ fuel := by
      refine ⟨2 * (writeObject members).length - 1, ?_, ?_⟩ <;>
        simp only [opens, List.length_cons, List.length_append, List.length_nil] <;> omega
    simp only [read, enough.1, value fuel enough.2]
    rfl
  intro fuel enough
  cases members with
  | nil => rfl
  | cons member others =>
      have written := readMembers_write writable [] (by simpa using distinct)
        (Nat.le_of_succ_le enough) (nestingLimit - 1) []
      obtain ⟨more, begins⟩ :
          ∃ more, List.intercalate [','] ((member :: others).map writeMember) ++ ['\x7d'] =
            '"' :: more := by
        cases others <;> simp [writeMember, writeText]
      have quote (rest : Text) : skipBlanks ('"' :: rest) = '"' :: rest := skipBlanks_cons rfl
      rw [opens, readValue, brace]
      rw [begins] at written ⊢
      simp only [if_neg (show nestingLimit ≠ 0 by decide), quote]
      change (readMembers (fuel + 2) (nestingLimit - 1) [] ('"' :: more)).map _ = _
      rw [written]
      rfl

/-! ### The keys of an object that is read -/

/-- A key that comes again takes its new value in the old place. -/
theorem keys_insertMember (key : Text) (value : Json) (members : List (Text × Json)) :
    (insertMember key value members).map Prod.fst =
      if key ∈ members.map Prod.fst then members.map Prod.fst
      else members.map Prod.fst ++ [key] := by
  induction members with
  | nil => rfl
  | cons member members ih =>
      by_cases same : member.1 = key
      · simp [insertMember, same]
      · rw [insertMember, if_neg same, List.map_cons, ih]
        by_cases old : key ∈ members.map Prod.fst
        · simp [old]
        · simp [old, Ne.symm same]

theorem nodup_keys_insertMember {key : Text} {members : List (Text × Json)}
    (distinct : (members.map Prod.fst).Nodup) (value : Json) :
    ((insertMember key value members).map Prod.fst).Nodup := by
  rw [keys_insertMember]
  split
  · exact distinct
  · rename_i new
    refine List.nodup_append.mpr ⟨distinct, by simp, ?_⟩
    intro old member one again same
    rw [List.mem_singleton.mp again] at same
    exact new (same ▸ member)

/-- What is read of an object has each key once, as what was read of it before. -/
theorem nodup_keys_of_readMembers {fuel depth : Nat} {before members : List (Text × Json)}
    {text rest : Text} (read : readMembers fuel depth before text = some (members, rest))
    (distinct : (before.map Prod.fst).Nodup) : (members.map Prod.fst).Nodup := by
  induction fuel generalizing before text with
  | zero => simp [readMembers] at read
  | succ fuel ih =>
      rw [readMembers] at read
      split at read
      · split at read
        · cases read
        · split at read
          · split at read
            · cases read
            · dsimp only at read
              split at read
              · cases read
                exact nodup_keys_insertMember distinct _
              · exact ih read (nodup_keys_insertMember distinct _)
              · cases read
          · cases read
      · cases read

/-- An object that is read has each key once. -/
theorem nodup_keys_of_readValue {fuel depth : Nat} {members : List (Text × Json)}
    {text rest : Text} (read : readValue fuel depth text = some (.object members, rest)) :
    (members.map Prod.fst).Nodup := by
  cases fuel with
  | zero => simp [readValue] at read
  | succ fuel =>
      rw [readValue] at read
      split at read
      case h_3 =>
        split at read
        · cases read
        split at read
        · cases read
          exact List.nodup_nil
        · obtain ⟨found, inside, same⟩ := Option.map_eq_some_iff.mp read
          cases same
          exact nodup_keys_of_readMembers inside List.nodup_nil
      case h_2 =>
        split at read
        · cases read
        · split at read <;> simp at read
      all_goals simp at read

theorem nodup_keys_of_read {text : Text} {members : List (Text × Json)}
    (whole : read text = some (.object members)) : (members.map Prod.fst).Nodup := by
  unfold read at whole
  split at whole
  · rename_i value rest found
    split at whole
    · cases whole
      exact nodup_keys_of_readValue found
    · cases whole
  · cases whole

end EnergyReport.Json
