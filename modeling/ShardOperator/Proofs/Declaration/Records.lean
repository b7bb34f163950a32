import ShardOperator.Declaration.Layout
import ShardOperator.Proofs.Json.Merging
import ShardOperator.Proofs.Settings.Made

namespace ShardOperator

/-- Fields say what entries say: they have the value of each entry that has one, and no other. -/
structure Fields.Says (entries : List (String × Option Json)) (fields : Fields) : Prop where
  nodup : (fields.map (·.1)).Nodup
  lookup : ∀ key, fields.lookup key = (entries.lookup key).join

namespace Fields.Says

variable {entries : List (String × Option Json)} {fields : Fields}

theorem of_object (h : (entries.map (·.1)).Nodup) :
    Says entries (entries.filterMap fun f => f.2.map (f.1, ·)) where
  nodup := h.sublist (Json.keys_filterMap_sublist _)
  lookup := Json.lookup_filterMap h

theorem of_entry (h : Says entries fields) {key : String} {value : Option Json}
    (hentry : entries.lookup key = some value) : fields.lookup key = value := by
  rw [h.lookup, hentry, Option.join_some]

section Kinds

variable {α : Type} {read : Json → Option α} {write : α → Json}

theorem defaulted (h : Says entries fields) (key : String) {x default : α}
    (hentry : entries.lookup key = some (some (write x))) (hx : Json.ReadsBack read write x) :
    fields.defaulted key default read = some x :=
  Fields.defaulted_of_lookup h.nodup (h.of_entry hentry) hx.read_write

theorem required (h : Says entries fields) (key : String) {x : α}
    (hentry : entries.lookup key = some (some (write x))) (hx : Json.ReadsBack read write x) :
    fields.required key read = some x := by
  unfold Fields.required
  rw [Fields.last?_eq h.nodup, h.of_entry hentry, Option.elim_some, hx.read_write]
  rfl

theorem optional (h : Says entries fields) (key : String) {x : Option α}
    (hentry : entries.lookup key = some (x.map write))
    (hx : ∀ a ∈ x, Json.ReadsBack read write a) : fields.optional key read = some x := by
  unfold Fields.optional
  rw [Fields.last?_eq h.nodup, h.of_entry hentry]
  cases x with
  | none => rfl
  | some a =>
    have ha : Json.ReadsBack read write a := hx a rfl
    have hvalue : orNull read (write a) = some (some a) := by
      unfold orNull
      split
      · next hnull => exact absurd hnull ha.write_ne_null
      · rw [ha.read_write, Option.map_some]
    rw [Option.map_some, Option.elim_some, hvalue]
    rfl

/-- A list that is left out when it has no items. -/
theorem items (h : Says entries fields) (key : String) {items : List α}
    (hentry : entries.lookup key = some (unlessNone write items))
    (hitems : ∀ item ∈ items, Json.ReadsBack read write item) :
    fields.defaulted key [] (Json.list? read) = some items := by
  cases items with
  | nil => exact Fields.defaulted_missing h.nodup (h.of_entry hentry) []
  | cons item rest =>
    have hwritten : entries.lookup key = some (some (.ofList write (item :: rest))) := hentry
    exact h.defaulted key hwritten (Json.readsBack_list hitems)

/-- Settings that are left out when they have no entries. -/
theorem settings (h : Says entries fields) (key : String) {s : Settings}
    (hentry : entries.lookup key = some (unlessEmpty s)) (hs : s.Made) :
    fields.defaulted key .empty Settings.ofJson? = some s := by
  unfold unlessEmpty at hentry
  split at hentry
  · next hempty =>
    have hnone : s = .empty := by
      obtain ⟨⟨entries, ascending⟩⟩ := s
      obtain rfl : entries = [] := List.isEmpty_iff.1 hempty
      rfl
    rw [hnone]
    exact Fields.defaulted_missing h.nodup (h.of_entry hentry) Settings.empty
  · exact h.defaulted key hentry hs.readsBack

theorem text (h : Says entries fields) (key : String) {s : Option String}
    (hentry : entries.lookup key = some (s.map .str)) : fields.optional key Json.text? = some s :=
  h.optional key hentry fun s _ => Json.readsBack_text s

theorem port (h : Says entries fields) (key : String) {n : Option Int32}
    (hentry : entries.lookup key = some (n.map .ofInt32)) :
    fields.optional key Json.int32? = some n :=
  h.optional key hentry fun n _ => Json.readsBack_int32 n

theorem count (h : Says entries fields) (key : String) {n : Option UInt32}
    (hentry : entries.lookup key = some (n.map (.ofNat ·.toNat))) :
    fields.optional key Json.uint32? = some n :=
  h.optional key hentry fun n _ => Json.readsBack_uint32 n

end Kinds

end Fields.Says

namespace Json

/-- One more field of a record has been read. -/
theorem read_bind {α β : Type} {x : Option α} {a : α} (hx : x = some a) (rest : α → Option β) :
    (x >>= rest) = rest a := by
  rw [hx]
  rfl

/-- A record is read back when its reader gets it from any fields that say its entries. -/
theorem ReadsBack.of_record {α : Type} {read : Json → Option α} {write : α → Json} {x : α}
    {entries : List (String × Option Json)} {declared : List String} {build : Fields → Option α}
    (hread : ∀ value : Json, read value = value.record? declared >>= build)
    (hwrite : write x = .object entries) (hkeys : entries.map (·.1) = declared)
    (hnodup : declared.Nodup)
    (hbuild : ∀ fields, Fields.Says entries fields → build fields = some x) :
    ReadsBack read write x where
  read_write := by
    have hsays := Fields.Says.of_object (hkeys ▸ hnodup)
    rw [hwrite, hread, Json.object, read_bind (Json.record?_obj hsays.nodup)]
    exact hbuild _ hsays
  write_ne_null := by
    rw [hwrite]
    exact nofun

end Json

section Inversion

variable {α : Type} {read : Json → Option α} {P : α → Prop} {fields : Fields} {key : String}

theorem Fields.of_last? (hread : ∀ {value x}, read value = some x → P x) {found : Option α}
    (h : fields.last? read key = some found) : ∀ x ∈ found, P x := by
  induction fields generalizing found with
  | nil =>
    obtain rfl := Option.some.inj h
    exact nofun
  | cons field rest ih =>
    unfold last? at h
    split at h
    · obtain ⟨value, hvalue, h⟩ := Option.bind_eq_some_iff.1 h
      obtain ⟨later, hlater, h⟩ := Option.bind_eq_some_iff.1 h
      obtain rfl := Option.some.inj h
      intro x hx
      rcases Option.or_eq_some_iff.1 hx with hx | ⟨-, hx⟩
      · exact ih hlater x hx
      · obtain rfl := Option.some.inj hx
        exact hread hvalue
    · exact ih h

theorem Fields.of_defaulted (hread : ∀ {value x}, read value = some x → P x) {default x : α}
    (hdefault : P default) (h : fields.defaulted key default read = some x) : P x := by
  obtain ⟨found, hfound, rfl⟩ := Option.map_eq_some_iff.1 h
  cases found with
  | none => exact hdefault
  | some x => exact Fields.of_last? hread hfound x rfl

theorem Fields.of_items {items : List α} (hread : ∀ {value x}, read value = some x → P x)
    (h : fields.defaulted key [] (Json.list? read) = some items) : ∀ x ∈ items, P x :=
  Fields.of_defaulted (Json.forall_of_list? hread) (List.forall_mem_nil P) h

theorem Fields.of_settings {s : Settings}
    (h : fields.defaulted key .empty Settings.ofJson? = some s) : s.Made :=
  Fields.of_defaulted Settings.Made.of_ofJson? .empty h

end Inversion

end ShardOperator
