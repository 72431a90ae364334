import Mathlib.Data.List.Basic
import RouterLab.Device.Listing
import RouterLab.Proofs.Address

/-!
The brief table read back.  A column pads its cells with blanks and cuts none of them, so that the
words of a line are its cells, and the cells tell the interface.
-/

namespace RouterLab

open Text

theorem Text.words_padded (width : Nat) (s : String) : words (padded width s) = words s := by
  have hblank : ∀ c ∈ spaces (width - s.toList.length), isBlank c = true := by
    intro c hc
    rw [List.eq_of_mem_replicate hc]
    decide
  have hfit : (padded width s).toList = s.toList ++ spaces (width - s.toList.length) := by
    simp [padded, Column.fit, Column.clip, Align.around, spaces]
  rw [words, words, hfit, splitBlank_append_blanks _ hblank]

theorem Text.mem_padded {c : Char} {width : Nat} {s : String} (h : c ∈ (padded width s).toList) :
    c ∈ s.toList ∨ c = ' ' := by
  simp only [padded, Column.fit, Column.clip, Align.around, spaces, String.toList_ofList,
    List.replicate_zero, List.nil_append, List.mem_append] at h
  exact h.imp_right List.eq_of_mem_replicate

theorem Text.splitOn_unlines {ls : List String} (hne : ls ≠ []) (h : ∀ l ∈ ls, '\n' ∉ l.toList) :
    (unlines ls).toList.splitOn '\n' = ls.map String.toList := by
  have hlines : (unlines ls).toList = ['\n'].intercalate (ls.map String.toList) :=
    String.toList_intercalate
  rw [hlines]
  refine List.splitOn_intercalate '\n' (fun cs hcs => ?_) (by simpa using hne)
  obtain ⟨l, hl, rfl⟩ := List.mem_map.mp hcs
  exact h l hl

namespace Device.Row

def cells (r : Row) : List String :=
  [r.name, r.address, r.status]

structure Plain (r : Row) : Prop where
  name : Word r.name
  address : Word r.address
  status : Word r.status

variable {r : Row}

theorem cells_injective : Function.Injective cells := by
  rintro ⟨n, a, s⟩ ⟨n', a', s'⟩ h
  simpa [cells] using h

theorem Plain.words_line (h : r.Plain) : words r.line = r.cells := by
  have hcut (s t : String) : words (s ++ " " ++ t) = words s ++ words t :=
    words_append_blank s t (b := ' ') (by decide)
  calc words r.line
    _ = words (padded 22 r.name ++ " " ++ padded 15 r.address) ++ words r.status := hcut _ _
    _ = words r.name ++ words r.address ++ words r.status := by
        rw [hcut, words_padded, words_padded]
    _ = r.cells := by
        rw [words_eq_of_word h.name, words_eq_of_word h.address, words_eq_of_word h.status]
        rfl

theorem Plain.unbroken_line (h : r.Plain) : '\n' ∉ r.line.toList := by
  have hcell {s : String} (hs : Word s) : '\n' ∉ s.toList := fun hmem =>
    absurd (hs.unbroken '\n' hmem) (by decide)
  have hpadded {width : Nat} {s : String} (hs : Word s) : '\n' ∉ (padded width s).toList := by
    intro hmem
    rcases mem_padded hmem with hmem | hblank
    · exact hcell hs hmem
    · exact absurd hblank (by decide)
  simp [line, hpadded h.name, hpadded h.address, hcell h.status]

theorem words_splitOn_unlines {rs : List Row} (hne : rs ≠ []) (h : ∀ r ∈ rs, r.Plain) :
    ((unlines (rs.map line)).toList.splitOn '\n').map (fun l => words (String.ofList l)) =
      rs.map cells := by
  have hunbroken : ∀ l ∈ rs.map line, '\n' ∉ l.toList := by
    intro l hl
    obtain ⟨r, hr, rfl⟩ := List.mem_map.mp hl
    exact (h r hr).unbroken_line
  rw [splitOn_unlines (by simpa using hne) hunbroken, List.map_map, List.map_map]
  apply List.map_congr_left
  intro r hr
  simpa using (h r hr).words_line

def interface (r : Row) : Interface where
  name := r.name
  address := if r.address = "unassigned" then none else some r.address
  up := r.status == "up"

end Device.Row

structure Interface.Tabular (i : Interface) : Prop where
  name : Word i.name
  address : ∀ a, i.address = some a → ∃ x, Address.ofString? a = some x

namespace Interface

def row (i : Interface) : Device.Row :=
  ⟨i.name, i.addressText, i.status⟩

variable {i : Interface}

theorem Tabular.word_addressText (h : i.Tabular) : Word i.addressText := by
  cases ha : i.address with
  | none =>
    rw [addressText, ha]
    decide
  | some a =>
    obtain ⟨x, hx⟩ := h.address a ha
    rw [addressText, ha]
    exact (Address.plainWord_of_ofString? hx).toWord

theorem word_status (i : Interface) : Word i.status := by
  rw [status]
  cases i.up <;> decide

theorem Tabular.plain_row (h : i.Tabular) : i.row.Plain :=
  ⟨h.name, h.word_addressText, i.word_status⟩

theorem Tabular.interface_row (h : i.Tabular) : i.row.interface = i := by
  have haddress : (if i.addressText = "unassigned" then none else some i.addressText) =
      i.address := by
    cases ha : i.address with
    | none => simp [addressText, ha]
    | some a =>
      have hne : a ≠ "unassigned" := by
        rintro rfl
        obtain ⟨x, hx⟩ := h.address _ ha
        cases hx
      simp [addressText, ha, hne]
  have hup : (i.status == "up") = i.up := by
    rw [status]
    cases i.up <;> decide
  have hread : i.row.interface =
      ⟨i.name, if i.addressText = "unassigned" then none else some i.addressText,
        i.status == "up"⟩ := rfl
  rw [hread, haddress, hup]

end Interface

namespace Device

variable {d : Device}

theorem plain_briefHeader : briefHeader.Plain :=
  ⟨by decide, by decide, by decide⟩

theorem plain_brief (h : ∀ i ∈ d.interfaces, i.Tabular) : ∀ r ∈ d.brief, r.Plain := by
  intro r hr
  obtain ⟨i, hi, rfl⟩ := List.mem_map.mp hr
  exact (h i hi).plain_row

theorem map_interface_brief (h : ∀ i ∈ d.interfaces, i.Tabular) :
    d.brief.map Row.interface = d.interfaces := by
  rw [brief, List.map_map]
  exact (List.map_congr_left fun i hi => (h i hi).interface_row).trans (List.map_id _)

theorem words_briefTable (h : ∀ i ∈ d.interfaces, i.Tabular) :
    (d.briefTable.toList.splitOn '\n').map (fun l => words (String.ofList l)) =
      briefHeader.cells :: d.brief.map Row.cells := by
  have hplain : ∀ r ∈ briefHeader :: d.brief, r.Plain := by
    rw [List.forall_mem_cons]
    exact ⟨plain_briefHeader, plain_brief h⟩
  exact Row.words_splitOn_unlines (List.cons_ne_nil _ _) hplain

theorem briefTable_read_back (d : Device) (hd : ∀ i ∈ d.interfaces, i.Tabular) :
    (d.briefTable.toList.splitOn '\n').map (fun l => words (String.ofList l)) =
      ["Interface", "IP-Address", "Status"] ::
        d.interfaces.map (fun i =>
          [i.name, i.address.getD "unassigned", if i.up then "up" else "down"]) ∧
    ∀ e : Device, (∀ i ∈ e.interfaces, i.Tabular) → e.briefTable = d.briefTable →
      e.interfaces = d.interfaces := by
  have hrows := words_briefTable hd
  constructor
  · rw [hrows, brief, List.map_map]
    rfl
  · intro e he htable
    have hcells : e.brief.map Row.cells = d.brief.map Row.cells := by
      rw [← htable, words_briefTable he] at hrows
      exact List.tail_eq_of_cons_eq hrows
    have hbrief : e.brief = d.brief := List.map_injective_iff.mpr Row.cells_injective hcells
    rw [← map_interface_brief he, hbrief, map_interface_brief hd]

theorem briefTable_read_back_wide_cells :
    let d : Device :=
      { new "R1" .router with
        interfaces := [{ name := "TenGigabitEthernet0/0/1" }, { name := "Fa0/1", up := true },
          { name := "GigabitEthernet0/0/1/2", address := some "255.255.255.255", up := true }] }
    let e : Device := (d.rename "Edge").toPrivileged
    (∀ i ∈ d.interfaces, i.Tabular) ∧ (∀ i ∈ e.interfaces, i.Tabular) ∧
    (d.briefTable.toList.splitOn '\n').map (fun l => words (String.ofList l)) =
      [["Interface", "IP-Address", "Status"],
        ["TenGigabitEthernet0/0/1", "unassigned", "down"], ["Fa0/1", "unassigned", "up"],
        ["GigabitEthernet0/0/1/2", "255.255.255.255", "up"]] ∧
    e ≠ d ∧ e.briefTable = d.briefTable ∧ e.interfaces = d.interfaces := by
  intro d e
  have hd : ∀ i ∈ d.interfaces, i.Tabular := by
    simp only [d, List.forall_mem_cons]
    refine ⟨⟨by decide, nofun⟩, ⟨by decide, nofun⟩, ⟨by decide, ?_⟩, nofun⟩
    rintro a ⟨⟩
    exact ⟨⟨255, 255, 255, 255⟩, by decide⟩
  obtain ⟨hwords, hsame⟩ := briefTable_read_back d hd
  exact ⟨hd, hd, hwords, by decide, rfl, hsame e hd rfl⟩

end Device

end RouterLab
