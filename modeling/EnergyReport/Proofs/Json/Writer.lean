import EnergyReport.Json.Writer
import EnergyReport.Proofs.Text.Basic

namespace EnergyReport.Json

/-! The characters of a written object. -/

def Scalar.content : Scalar → Text
  | .text value => value
  | .natural value => Nat.toDigits 10 value

def punctuation : List Char := ['\x7b', '\x7d', '"', ':', ',']

theorem mem_writeMember {member : Text × Scalar} {c : Char} (written : c ∈ writeMember member) :
    c ∈ punctuation ∨ c ∈ member.1 ∨ c ∈ member.2.content := by
  have quoted {text : Text} (among : c ∈ writeText text) : c ∈ punctuation ∨ c ∈ text := by
    simp only [writeText, List.cons_append, List.mem_cons, List.mem_append, List.not_mem_nil,
      or_false] at among
    rcases among with opens | within | closes
    · exact .inl (by simp [opens, punctuation])
    · exact .inr within
    · exact .inl (by simp [closes, punctuation])
  obtain ⟨key, value⟩ := member
  simp only [writeMember, List.mem_append, List.mem_cons] at written
  rcases written with inKey | colon | inValue
  · exact (quoted inKey).imp_right .inl
  · exact .inl (by simp [colon, punctuation])
  · cases value with
    | text value => exact (quoted inValue).imp_right .inr
    | natural value => exact .inr (.inr inValue)

/-- A character of a written object belongs to a key, to a value or to the punctuation. -/
theorem mem_writeObject {members : List (Text × Scalar)} {c : Char}
    (written : c ∈ writeObject members) :
    c ∈ punctuation ∨ ∃ member ∈ members, c ∈ member.1 ∨ c ∈ member.2.content := by
  simp only [writeObject, List.cons_append, List.mem_cons, List.mem_append, List.not_mem_nil,
    or_false] at written
  rcases written with opens | inside | closes
  · exact .inl (by simp [opens, punctuation])
  · rcases Text.mem_intercalate inside with comma | ⟨_, among, within⟩
    · exact .inl (by simp [List.mem_singleton.mp comma, punctuation])
    · obtain ⟨member, listed, rfl⟩ := List.mem_map.mp among
      exact (mem_writeMember within).imp_right fun either => ⟨member, listed, either⟩
  · exact .inl (by simp [closes, punctuation])

theorem getLast?_writeObject (members : List (Text × Scalar)) :
    (writeObject members).getLast? = some '\x7d' := by
  rw [writeObject, List.getLast?_append]
  rfl

theorem trim_writeObject (members : List (Text × Scalar)) :
    Text.trim (writeObject members ++ [' ']) = writeObject members :=
  Text.trim_append_blank (by decide) (by decide) (by decide)

end EnergyReport.Json
