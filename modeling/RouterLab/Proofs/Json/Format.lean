import RouterLab.Json.Format
import RouterLab.Proofs.Json.Reading

namespace RouterLab

/-- Nested at most so deep, with every field given once, and without numbers and moments, which
not every reader takes for what they were. -/
inductive Datum.Portable : Nat → Datum → Prop where
  | null {n : Nat} : Portable n .null
  | flag {n : Nat} (b : Bool) : Portable n (.flag b)
  | text {n : Nat} (s : String) : Portable n (.text s)
  | list {n : Nat} {items : List Datum} (h : ∀ d ∈ items, Portable n d) :
    Portable (n + 1) (.list items)
  | record {n : Nat} {fields : List (String × Datum)} (once : (fields.map (·.1)).Nodup)
    (h : ∀ f ∈ fields, Portable n f.2) : Portable (n + 1) (.record fields)

namespace Datum

attribute [simp] Portable.null Portable.flag Portable.text

variable {n : Nat}

@[simp] theorem portable_list {items : List Datum} :
    Portable (n + 1) (.list items) ↔ ∀ d ∈ items, d.Portable n :=
  ⟨fun | .list h => h, .list⟩

@[simp] theorem portable_record {fields : List (String × Datum)} :
    Portable (n + 1) (.record fields) ↔
      (fields.map (·.1)).Nodup ∧ ∀ f ∈ fields, f.2.Portable n :=
  ⟨fun | .record once h => ⟨once, h⟩, fun ⟨once, h⟩ => .record once h⟩

@[simp] theorem portable_ofOption_text (s : Option String) : Portable n (ofOption .text s) := by
  cases s <;> simp [ofOption]

theorem Portable.exact {d : Datum} (h : d.Portable n) : d.Exact := by
  induction h with
  | null => exact .null
  | flag b => exact .flag b
  | text s => exact .text s
  | list _ ih => exact .list ih
  | record _ _ ih => exact .record ih

end Datum

namespace Json.Format

/-- Either layout is read back as the data that it was written from.  Readers may refuse what is
nested 128 deep. -/
structure Lossless (f : Format) : Prop where
  read_compact : ∀ {d : Datum}, d.Portable 127 → f.read (f.compact d) = some d
  read_pretty : ∀ {d : Datum}, d.Portable 127 → f.read (f.pretty d) = some d

theorem lossless_standard : Lossless standard where
  read_compact h := Json.read_compact h.exact
  read_pretty h := Json.read_pretty h.exact

end Json.Format

end RouterLab
