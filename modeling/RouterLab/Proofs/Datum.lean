import RouterLab.Datum.Slot
import RouterLab.Proofs.Keyed

namespace RouterLab.Datum

theorem slotOf_of_mem {fields : List (String × Datum)} (h : (fields.map (·.1)).Nodup)
    {f : String × Datum} (hf : f ∈ fields) : slotOf fields f.1 = some (.given f.2) := by
  rw [slotOf, Keyed.filter_of_mem Prod.fst h hf]

theorem slots?_record (k : Dialect) {fields : List (String × Datum)}
    (h : (fields.map (·.1)).Nodup) :
    (Datum.record fields).slots? k (fields.map (·.1)) =
      some (fields.map fun f => .given f.2) := by
  have hall {fs : List (String × Datum)} (hfs : ∀ f ∈ fs, f ∈ fields) :
      (fs.map (·.1)).mapM (slotOf fields) = some (fs.map fun f => .given f.2) := by
    induction fs with
    | nil => rfl
    | cons f fs ih =>
      rw [List.forall_mem_cons] at hfs
      rw [List.map_cons, List.mapM_cons, slotOf_of_mem h hfs.1, ih hfs.2]
      rfl
  exact hall fun _ => id

theorem list?_map {α : Type} {write : α → Datum} {read : Datum → Option α}
    (h : ∀ a, read (write a) = some a) (as : List α) :
    list? read (.list (as.map write)) = some as := by
  change (as.map write).mapM read = some as
  induction as with
  | nil => rfl
  | cons a as ih =>
    rw [List.map_cons, List.mapM_cons, h, ih]
    rfl

theorem optional?_text (s : Option String) : optional? text? (ofOption .text s) = some s := by
  cases s <;> rfl

end RouterLab.Datum
