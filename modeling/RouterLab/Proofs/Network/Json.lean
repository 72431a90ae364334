import RouterLab.Network.Json
import RouterLab.Proofs.Datum
import RouterLab.Proofs.Json.Format

namespace RouterLab

namespace Interface

@[simp] theorem portable_toDatum (n : Nat) (i : Interface) : i.toDatum.Portable (n + 1) := by
  simp [toDatum]

theorem ofDatum?_toDatum (k : Dialect) (i : Interface) : ofDatum? k i.toDatum = some i := by
  have hslots : i.toDatum.slots? k ["name", "ip_address", "admin_up"] =
      some [.given (.text i.name), .given (.ofOption .text i.address), .given (.flag i.up)] :=
    Datum.slots?_record k (by simp)
  rw [ofDatum?, hslots]
  simp [Slot.required, Slot.withDefault, Datum.optional?_text, Datum.text?, Datum.flag?]

end Interface

theorem Mode.ofDatum?_toDatum (k : Dialect) (m : Mode) : ofDatum? k m.toDatum = some m :=
  ofName?_name m

theorem Device.Kind.ofDatum?_toDatum (k : Dialect) (kind : Kind) :
    ofDatum? k kind.toDatum = some kind :=
  ofName?_name kind

namespace Device.Snapshot

@[simp] theorem portable_toDatum (n : Nat) (s : Snapshot) : s.toDatum.Portable (n + 3) := by
  simp [toDatum, Kind.toDatum, Mode.toDatum]

theorem ofDatum?_toDatum (k : Dialect) (s : Snapshot) : ofDatum? k s.toDatum = some s := by
  have hslots : s.toDatum.slots? k
        ["name", "hostname", "kind", "mode", "active_interface", "interfaces"] =
      some [.given (.text s.name), .given (.text s.hostname), .given s.kind.toDatum,
        .given s.mode.toDatum, .given (.ofOption .text s.active),
        .given (.list (s.interfaces.map Interface.toDatum))] :=
    Datum.slots?_record k (by simp)
  have hinterfaces := Datum.list?_map (Interface.ofDatum?_toDatum k) s.interfaces
  rw [ofDatum?, hslots]
  simp [Slot.required, active?, Datum.text?, Kind.ofDatum?_toDatum, Mode.ofDatum?_toDatum,
    Datum.optional?_text, hinterfaces]

end Device.Snapshot

namespace Link

@[simp] theorem portable_toDatum (n : Nat) (l : Link) : l.toDatum.Portable (n + 1) := by
  simp [toDatum]

theorem ofDatum?_toDatum (k : Dialect) (l : Link) : ofDatum? k l.toDatum = some l := by
  have hslots : l.toDatum.slots? k ["a", "b"] = some [.given (.text l.a), .given (.text l.b)] :=
    Datum.slots?_record k (by simp)
  rw [ofDatum?, hslots]
  simp [Slot.required, Datum.text?]

end Link

namespace Network.Snapshot

theorem portable_toDatum (n : Nat) (s : Snapshot) : s.toDatum.Portable (n + 5) := by
  simp [toDatum]

theorem ofDatum?_toDatum (k : Dialect) (s : Snapshot) : ofDatum? k s.toDatum = some s := by
  have hslots : s.toDatum.slots? k ["devices", "links"] =
      some [.given (.list (s.devices.map (·.toDatum))), .given (.list (s.links.map (·.toDatum)))] :=
    Datum.slots?_record k (by simp)
  have hdevices := Datum.list?_map (Device.Snapshot.ofDatum?_toDatum k) s.devices
  have hlinks := Datum.list?_map (Link.ofDatum?_toDatum k) s.links
  rw [ofDatum?, hslots]
  simp [Slot.required, hdevices, hlinks]

theorem snapshots_lossless {f : Json.Format} (hf : f.Lossless) :
    (∀ s : Snapshot, ofJson? (s.toJson f) f = some s) ∧
    ∀ s : Device.Snapshot, Device.Snapshot.ofJson? (s.toJson f) f = some s := by
  constructor
  · intro s
    rw [ofJson?, toJson, hf.read_pretty (s.portable_toDatum 122)]
    exact ofDatum?_toDatum f.dialect s
  · intro s
    rw [Device.Snapshot.ofJson?, Device.Snapshot.toJson, hf.read_compact (s.portable_toDatum 124)]
    exact Device.Snapshot.ofDatum?_toDatum f.dialect s

theorem snapshots_lossless_escapes :
    let d : Device.Snapshot :=
      { name := "R\"1\\", hostname := "é\n\x01", kind := .bare, mode := .interfaceConfig,
        active := some "Fa 0", interfaces := [{ name := "Fa 0", address := some "?", up := true }] }
    let s : Snapshot :=
      { devices := [⟨"S1", "", .switch, .user, none, []⟩], links := [⟨"S1", "R1"⟩] }
    Json.Format.standard.Lossless ∧
    d.toJson = "\x7b\"name\":\"R\\\"1\\\\\",\"hostname\":\"é\\n\\u0001\",\"kind\":\"bare\"," ++
      "\"mode\":\"interface_config\",\"active_interface\":\"Fa 0\",\"interfaces\":[" ++
      "\x7b\"name\":\"Fa 0\",\"ip_address\":\"?\",\"admin_up\":true\x7d]\x7d" ∧
    Device.Snapshot.ofJson? d.toJson = some d ∧
    s.toJson = "\n".intercalate
      ["\x7b", "  \"devices\": [", "    \x7b", "      \"name\": \"S1\",", "      \"hostname\": \"\",",
        "      \"kind\": \"switch\",", "      \"mode\": \"user\",",
        "      \"active_interface\": null,", "      \"interfaces\": []", "    \x7d", "  ],",
        "  \"links\": [", "    \x7b", "      \"a\": \"S1\",", "      \"b\": \"R1\"", "    \x7d", "  ]",
        "\x7d"] ∧
    ofJson? s.toJson = some s := by
  intro d s
  have hstandard := Json.Format.lossless_standard
  obtain ⟨hnetwork, hdevice⟩ := snapshots_lossless hstandard
  exact ⟨hstandard, by decide +kernel, hdevice d, by decide +kernel, hnetwork s⟩

end Network.Snapshot

end RouterLab
