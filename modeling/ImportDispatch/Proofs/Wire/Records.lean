import ImportDispatch.Proofs.Attempt
import ImportDispatch.Wire.Decode
/-!
# Records, decoded from what is written

An object that has every field of a record once passes the look at its members, and the fields are found under their
names.  Both hold in every order of the members, so in the order of the declaration, in which records are written, and
in the order of the keys (`Json.sorted_record`), in which they may arrive.
-/
namespace ImportDispatch

/-! ## Members under their keys -/

theorem find?_key_of_mem : ∀ {members : List (Text × Json)} {key : Text} {value : Json},
    (members.map Prod.fst).Nodup → (key, value) ∈ members → members.find? (·.1 == key) = some (key, value)
  | [], _, _, _, h => by cases h
  | (k, v) :: members, key, value, hnodup, h => by
    rw [List.map_cons, List.nodup_cons] at hnodup
    rcases List.mem_cons.1 h with h | h
    · cases h
      rw [List.find?_cons_of_pos (by simp)]
    · have hne : k ≠ key := fun he => hnodup.1 (List.mem_map.2 ⟨_, h, he.symm⟩)
      rw [List.find?_cons_of_neg (by simpa using hne), find?_key_of_mem hnodup.2 h]

namespace Json

theorem insertMember_perm (key : Text) (value : Json) : ∀ {members : List (Text × Json)},
    key ∉ members.map Prod.fst → (insertMember key value members).Perm ((key, value) :: members)
  | [], _ => .refl _
  | (k, v) :: members, h => by
    rw [List.map_cons, List.mem_cons, not_or] at h
    rw [insertMember]
    by_cases hless : keyLess key k = true
    · rw [if_pos hless]
    · rw [if_neg hless, if_neg (by simpa using h.1)]
      exact ((insertMember_perm key value h.2).cons (k, v)).trans (.swap _ _ _)

theorem sortedMembers_perm : ∀ (members done : List (Text × Json)), (members.map Prod.fst ++ done.map Prod.fst).Nodup →
    (sortedMembers members done).Perm (members.map (fun m => (m.1, m.2.sorted)) ++ done)
  | [], done, _ => .refl _
  | (key, value) :: members, done, h => by
    rw [List.map_cons, List.cons_append, List.nodup_cons, List.mem_append, not_or] at h
    have hput := insertMember_perm key value.sorted h.1.2
    have hnodup : (members.map Prod.fst ++ (insertMember key value.sorted done).map Prod.fst).Nodup := by
      refine ((hput.map Prod.fst).append_left _).nodup_iff.2 ?_
      rw [List.map_cons]
      refine List.perm_middle.nodup_iff.2 (List.nodup_cons.2 ⟨?_, h.2⟩)
      rw [List.mem_append, not_or]
      exact h.1
    rw [sortedMembers]
    exact (sortedMembers_perm members _ hnodup).trans ((hput.append_left _).trans List.perm_middle)

/-- A record in the order of its keys has the members that it was written with. -/
theorem sorted_record {members : List (String × Json)} (hnodup : (members.map fun m => m.1.toList).Nodup) :
    ∃ ms, (record members).sorted = .object ms ∧ ms.Perm (members.map fun m => (m.1.toList, m.2.sorted)) := by
  refine ⟨_, rfl, ?_⟩
  have := sortedMembers_perm (members.map fun m => (m.1.toList, m.2)) [] (by simpa [Function.comp_def] using hnodup)
  simpa [Function.comp_def] using this

end Json

/-! ## Records -/

/-- A field of a record that fits. -/
def RecordType.Fits (type : RecordType) (member : Text × Json) : Prop :=
  ∃ field, type.fields.find? (·.name == member.1) = some field ∧ field.check member.2 = .ok ()

theorem Field.check_of {α : Type} {name : String} {decode : Decoder α} {v : Json} {x : α} (h : decode v = .ok x) :
    (Field.of name decode).check v = .ok () := by
  show (decode v).map (fun _ => ()) = .ok ()
  rw [h]
  rfl

theorem checkMembers_eq_ok {type : RecordType} : ∀ (members : List (Text × Json)) (seen : List Text),
    (members.map Prod.fst).Nodup → (∀ m ∈ members, m.1 ∉ seen) → (∀ m ∈ members, type.Fits m) →
      checkMembers type.fields seen members = .ok ()
  | [], _, _, _, _ => rfl
  | (key, value) :: members, seen, hnodup, hseen, hfits => by
    rw [List.map_cons, List.nodup_cons] at hnodup
    obtain ⟨field, hfind, hcheck⟩ := hfits _ List.mem_cons_self
    have hnew : seen.elem key = false := by simpa using hseen _ List.mem_cons_self
    have hseen' : ∀ m ∈ members, m.1 ∉ key :: seen := by
      intro m hm hk
      rcases List.mem_cons.1 hk with hk | hk
      · exact hnodup.1 (List.mem_map.2 ⟨m, hm, hk⟩)
      · exact hseen m (List.mem_cons_of_mem _ hm) hk
    simp only [checkMembers, hfind, hnew, hcheck, Bool.false_eq_true, if_false, bind, Except.bind]
    exact checkMembers_eq_ok members (key :: seen) hnodup.2 hseen' (fun m hm => hfits m (List.mem_cons_of_mem _ hm))

namespace FieldSource

variable {α : Type} {source : FieldSource} {name : String} {place : Nat} {decode : Decoder α} {x : α} {v : Json}

/-- The members stand in the source, wherever it is asked for them. -/
def Has (source : FieldSource) (members : List (Text × Json)) : Prop :=
  ∀ m ∈ members, ∀ place, source.value? m.1 place = some m.2

theorem required_eq (h : source.value? name.toList place = some v) : source.required name place decode = decode v := by
  simp only [required, h]

theorem withDefault_eq {fallback : α} (h : source.value? name.toList place = some v) :
    source.withDefault name place decode fallback = decode v := by
  simp only [withDefault, h]

theorem required_ok (h : source.required name place decode = .ok x) : ∃ v, decode v = .ok x := by
  rw [required.eq_def] at h
  split at h
  · exact ⟨_, h⟩
  · cases h
  · cases h

end FieldSource

namespace Decoder

variable {α : Type} {type : RecordType} {build : FieldSource → Except DecodeError α} {x : α}

/-- **The fields of a record, each once and fitting, are decoded in every order.** -/
theorem record_of_perm {members written : List (Text × Json)} (hperm : members.Perm written)
    (hnames : written.map Prod.fst = type.fields.map Field.name) (hnodup : (type.fields.map Field.name).Nodup)
    (hfits : ∀ m ∈ written, type.Fits m)
    (hbuild : ∀ source : FieldSource, source.Has written → build source = .ok x) :
    record type build (.object members) = .ok x := by
  have hnodup' : (members.map Prod.fst).Nodup := (hperm.map Prod.fst).nodup_iff.2 (hnames ▸ hnodup)
  have hcheck : checkMembers type.fields [] members = .ok () :=
    checkMembers_eq_ok members [] hnodup' (fun _ _ => List.not_mem_nil) (fun m hm => hfits m (hperm.mem_iff.1 hm))
  have hhas : (FieldSource.members type members).Has written := by
    intro m hm place
    rw [FieldSource.value?, find?_key_of_mem hnodup' (hperm.mem_iff.2 hm)]
    rfl
  rw [record, hcheck]
  exact hbuild _ hhas

/-- What was decoded was built from somewhere. -/
theorem exists_of_record {j : Json} (h : record type build j = .ok x) : ∃ source, build source = .ok x := by
  rw [record.eq_def] at h
  split at h
  · obtain ⟨_, -, h⟩ := Attempt.bind_eq_ok h
    exact ⟨_, h⟩
  · obtain ⟨y, hy, h⟩ := Attempt.bind_eq_ok h
    obtain ⟨_, -, h⟩ := Attempt.bind_eq_ok h
    cases h
    exact ⟨_, hy⟩
  · cases h

end Decoder
end ImportDispatch
