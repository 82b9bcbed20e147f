import ImportDispatch.Proofs.Service.Stage
import ImportDispatch.Proofs.Storage.Places
/-!
# Settled submissions

A submission that has its id is settled: the id is remembered as long as it could be given out again, and the directory
under it is held (`Settled`).  Both last.  An id that is given out later differs (`Remembered.ne_of_free`), so that what
is done under it happens elsewhere (`Settled.elsewhere`).
-/
namespace ImportDispatch

open Attempt (runOn)
open DiskLayout (workflowDir Holds GrowsFor)

/-! ## Ids as names -/

namespace JobId

theorem mem_grown {c : Char} {suffixes : List Text} {id : Text} (h : c ∈ grown id suffixes) :
    c ∈ id ∨ c = '-' ∨ ∃ x ∈ suffixes, c ∈ x := by
  rw [grown_eq, List.mem_append, List.mem_flatMap] at h
  rcases h with h | ⟨x, hx, hc⟩
  · exact .inl h
  rcases List.mem_cons.1 hc with rfl | hc
  · exact .inr (.inl rfl)
  · exact .inr (.inr ⟨x, hx, hc⟩)

theorem prefix_grown {suffixes : List Text} (id : Text) : id <+: grown id suffixes := by
  rw [grown_eq]
  exact List.prefix_append id _

theorem IsIdOf.isName {name id : Text} {time : LocalTime} (h : IsIdOf name time id) (hname : '/' ∉ name) :
    IsName id := by
  obtain ⟨suffixes, hsuffixes, rfl⟩ := h
  refine .of_dash ?_ ((prefix_grown _).subset (List.mem_append_right _ List.mem_cons_self))
  intro hslash
  rcases mem_grown hslash with h | h | ⟨x, hx, h⟩
  · rcases List.mem_append.1 h with h | h
    · exact normalName_no_slash hname h
    · exact (isStamp_stampText time).no_slash (by simpa using h)
  · revert h
    decide
  · exact (hsuffixes x hx).no_slash h

end JobId

/-! ## Being settled -/

/-- The id was given out, and is remembered as long as it could be given out again. -/
def Remembered (first : Int) (last : LocalTime) (reserved : Reservations) (home id : Text) : Prop :=
  ∃ name time, '/' ∉ name ∧ JobId.IsIdOf name time id ∧ time.InCentury first ∧ last.before time = false ∧
    reserved.Remembers first last time (workflowDir home id [])

/-- A submission has its id, and holds the directory under it. -/
structure Settled (first : Int) (last : LocalTime) (reserved : Reservations) (tree : FileTree) (home id dir : Text)
    (written : List (Text × Text)) : Prop where
  remembered : Remembered first last reserved home id
  holds : ∃ place appDir, dir = workflowDir home id appDir ∧ Holds tree home place id appDir written

variable {first : Int} {last now : LocalTime} {reserved reserved' : Reservations} {tree grown : FileTree}
  {home id other dir : Text} {place : List Text} {written : List (Text × Text)}

theorem Remembered.isName (h : Remembered first last reserved home id) : IsName id := by
  obtain ⟨name, time, hname, hid, -⟩ := h
  exact hid.isName hname

theorem Remembered.still (h : Remembered first last reserved home id) (hstep : now.before last = false) :
    Remembered first now reserved home id := by
  obtain ⟨name, time, hname, hid, htime, hlast, hmem⟩ := h
  exact ⟨name, time, hname, hid, htime, LocalTime.not_before_trans hlast hstep,
    fun t ht hbefore => hmem t ht (LocalTime.not_before_trans hstep hbefore)⟩

/-- Nothing is forgotten when another id is given out. -/
theorem Remembered.later (h : Remembered first last reserved home id) (hnow : now.InCentury first)
    (hstep : now.before last = false) (hstamp : reserved'.stamp = now.stampText)
    (hdirs : (reserved.inSecond now.stampText).dirs ⊆ reserved'.dirs) : Remembered first now reserved' home id := by
  obtain ⟨name, time, hname, hid, htime, hlast, hmem⟩ := h
  exact ⟨name, time, hname, hid, htime, LocalTime.not_before_trans hlast hstep,
    hmem.later htime hnow hlast hstep hstamp hdirs⟩

/-- **An id that is remembered is not given out.** -/
theorem Remembered.ne_of_free (h : Remembered first last reserved home id) {name : Text}
    (hnow : now.InCentury first) (hstep : now.before last = false) (hother : JobId.IsIdOf name now other)
    (hfree : workflowDir home other [] ∉ (reserved.inSecond now.stampText).dirs) : id ≠ other := by
  rintro rfl
  obtain ⟨name', time, -, hid, -, -, hmem⟩ := h
  exact hfree (hmem now hnow hstep (hother.same_stamp hid))

namespace Settled

theorem still (h : Settled first last reserved tree home id dir written) (hstep : now.before last = false) :
    Settled first now reserved tree home id dir written :=
  ⟨h.remembered.still hstep, h.holds⟩

theorem elsewhere (h : Settled first last reserved tree home id dir written) (hleads : tree.Leads home place)
    (hgrown : GrowsFor tree place other grown) (hne : id ≠ other) :
    Settled first last reserved grown home id dir written := by
  obtain ⟨place', appDir, hdir, hholds⟩ := h.holds
  obtain rfl := hleads.unique hholds.leads
  exact ⟨h.remembered, place, appDir, hdir, hholds.elsewhere hgrown hne⟩

theorem leads (h : Settled first last reserved tree home id dir written) : ∃ place, tree.Leads home place := by
  obtain ⟨place, appDir, -, hholds⟩ := h.holds
  exact ⟨place, hholds.leads⟩

theorem filesIn (h : Settled first last reserved tree home id dir written) (hhome : home ≠ []) :
    tree.filesIn dir = written.map fun file => ([file.1], file.2) := by
  obtain ⟨place, appDir, rfl, hholds⟩ := h.holds
  exact hholds.filesIn hhome h.remembered.isName

/-- The directories of two ids are apart: as paths, and as the places that they lead to. -/
theorem apart {dir' : Text} {written' : List (Text × Text)} (h : Settled first last reserved tree home id dir written)
    (h' : Settled first last reserved tree home other dir' written') (hhome : home ≠ []) (hne : id ≠ other) :
    ¬ DiskLayout.Within dir dir' ∧ ∀ p p', tree.walk (tree.origin dir) (FileTree.segments dir) = .ok p →
      tree.walk (tree.origin dir') (FileTree.segments dir') = .ok p' → ¬ p' <+: p := by
  obtain ⟨place, appDir, rfl, hholds⟩ := h.holds
  obtain ⟨place', appDir', rfl, hholds'⟩ := h'.holds
  obtain rfl := hholds.leads.unique hholds'.leads
  have hid := h.remembered.isName
  have hid' := h'.remembered.isName
  refine ⟨DiskLayout.workflowDir_apart hid hid' hne hholds.names hholds'.names, fun p p' hp hp' hbelow => ?_⟩
  obtain rfl := hholds.place_of_walk hhome hid hp
  obtain rfl := hholds'.place_of_walk hhome hid' hp'
  rw [List.append_assoc, List.append_assoc, List.prefix_append_right_inj] at hbelow
  simp only [List.cons_append, List.nil_append, List.cons_prefix_cons] at hbelow
  exact hne hbelow.2.1.symm

/-- Nothing has the path of a file that is not written yet, nor will it when the directory is made. -/
theorem not_taken (h : Settled first last reserved tree home id dir written) (hrooted : tree.Rooted) (hhome : home ≠ [])
    {name : Text} (hname : IsName name) (hnew : ∀ file ∈ written, file.1 ≠ name) (content : Text) :
    tree.makeFile (dir ++ '/' :: name) content ≠ .error .taken ∧
      (FileTree.makeDirectories dir tree).2.makeFile (dir ++ '/' :: name) content ≠ .error .taken := by
  obtain ⟨place, appDir, rfl, hholds⟩ := h.holds
  have hid := h.remembered.isName
  exact ⟨hholds.not_taken hhome hid hname hnew content,
    (hholds.makeDirectories hrooted hhome hid).1.not_taken hhome hid hname hnew content⟩

theorem joinPath_eq (h : Settled first last reserved tree home id dir written) (hhome : home ≠ []) {name : Text}
    (hname : IsName name) : joinPath dir name = dir ++ '/' :: name := by
  obtain ⟨place, appDir, rfl, hholds⟩ := h.holds
  have hid := h.remembered.isName
  exact joinPath_open (hholds.no_slash hhome hid).1 (hholds.no_slash hhome hid).2 hname.head

end Settled
end ImportDispatch
