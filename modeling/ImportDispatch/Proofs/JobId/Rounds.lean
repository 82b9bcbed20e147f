import ImportDispatch.Proofs.JobId.Reserve
import ImportDispatch.Proofs.Storage.Disk
import Mathlib.Data.Finset.Card
import Mathlib.Data.Finset.Image
import Mathlib.Data.Nat.Find
import Mathlib.Order.Monotone.Basic
/-!
# How long the search for an id takes

Nothing counts the rounds of the search, and the suffixes may be drawn badly: they may be the same ones again and again.
The search ends all the same.  Every candidate is longer than the one before, and so is the last name of its directory;
thus no two candidates have the same directory, and only so many directories are reserved or there
(`DiskSearch.rounds_le`).  The search ends with the first candidate whose directory is not taken, or cannot be asked
about (`DiskSearch.exists_takes`).
-/
namespace ImportDispatch

open Attempt (runOn)

namespace JobId

/-! ## Growth -/

section

variable (suffix : Nat → Text)

/-- What an id has grown by after the given number of rounds: a dash and a suffix for each. -/
def growth (round : Nat) : Text := (List.range round).flatMap fun n => '-' :: suffix n

theorem growth_succ (round : Nat) : growth suffix (round + 1) = growth suffix round ++ '-' :: suffix round := by
  simp [growth, List.range_succ]

theorem growth_injective : Function.Injective (growth suffix) := by
  have hlonger : StrictMono fun round => (growth suffix round).length := by
    refine strictMono_nat_of_lt_succ fun round => ?_
    rw [growth_succ, List.length_append, List.length_cons]
    omega
  exact fun m n h => hlonger.injective (congrArg List.length h)

theorem grown_range (id : Text) (round : Nat) :
    grown id ((List.range round).map suffix) = id ++ growth suffix round := by
  rw [grown_eq, List.flatMap_map, growth]

theorem no_slash_growth {suffix : Nat → Text} (hsuffix : ∀ n, IsSuffix (suffix n)) (round : Nat) :
    '/' ∉ growth suffix round := by
  intro hslash
  obtain ⟨n, -, hn⟩ := List.mem_flatMap.1 hslash
  exact (hsuffix n).no_slash (by simpa using hn)

end

/-! ## Searches on disk -/

/-- A search for an id on disk, and what it meets.  The suffixes are a stream: there are always more of them. -/
structure DiskSearch where
  home : Text
  state : DiskState
  reserved : Reservations
  now : LocalTime
  name : Text
  suffix : Nat → Text
  isSuffix : ∀ n, IsSuffix (suffix n)

namespace DiskSearch

/-- What is reserved in the second of the search. -/
def remembered (search : DiskSearch) : Reservations := search.reserved.inSecond search.now.stampText

/-- The id that the search comes to after the given number of rounds. -/
def candidate (search : DiskSearch) (round : Nat) : Text :=
  normalName search.name ++ '-' :: search.now.stampText ++ growth search.suffix round

def dir (search : DiskSearch) (round : Nat) : Text := DiskLayout.workflowDir search.home (search.candidate round) []

/-- A directory is taken: it is reserved, or something has its path. -/
def Taken (search : DiskSearch) (dir : Text) : Prop :=
  dir ∈ search.remembered.dirs ∨ search.state.tree.isTaken dir = .ok true

/-- What the reservation comes to with the given number of suffixes from the stream. -/
def outcome (search : DiskSearch) (drawn : Nat) : Except ReservationError Text × Reservations × DiskState :=
  runOn (reserve (DiskStorage.workspaceAt search.home) search.now ((List.range drawn).map search.suffix) search.name)
    (search.reserved, search.state)

variable (search : DiskSearch)

/-- The last name of the directory of a candidate ends in what the candidate has grown by. -/
theorem exists_lastName : ∃ first, ∀ round, IsName (first ++ growth search.suffix round) ∧
    (FileTree.segments (search.dir round)).getLast? = some (first ++ growth search.suffix round) := by
  obtain ⟨before, hbefore⟩ := exists_joinPath (joinPath search.home jobsFolder)
    (normalName search.name ++ '-' :: search.now.stampText)
  rw [← List.append_assoc] at hbefore
  -- the name may hold slashes, so the last name need not begin where the candidate does
  obtain hnil | ⟨front, last, hlast⟩ := List.eq_nil_or_concat' (FileTree.segments (before ++ normalName search.name))
  · exact absurd hnil (Text.splitBy_ne_nil _ _)
  refine ⟨last ++ '-' :: search.now.stampText, fun round => ?_⟩
  have hdir : search.dir round =
      before ++ normalName search.name ++ '-' :: search.now.stampText ++ growth search.suffix round := by
    show joinPath (joinPath search.home jobsFolder) _ = _
    rw [candidate, joinPath_append _ (by simp), hbefore]
  have hsegments : FileTree.segments (search.dir round) =
      front ++ [last ++ '-' :: search.now.stampText ++ growth search.suffix round] := by
    rw [hdir]
    exact segments_append_last (no_slash_growth search.isSuffix round)
      (segments_append_last (by simp [(isStamp_stampText search.now).no_slash]) hlast)
  refine ⟨.of_dash (fun hslash => ?_) (by simp), by rw [hsegments]; simp⟩
  have hpiece := Text.not_sep_of_mem_splitBy (p := (· == '/')) (s := search.dir round)
    (by rw [show Text.splitBy _ _ = _ from hsegments]; simp) '/' hslash
  exact absurd hpiece (by decide)

/-- No two candidates have the same directory. -/
theorem dir_injective : Function.Injective search.dir := by
  obtain ⟨first, hlast⟩ := search.exists_lastName
  intro m n h
  have hsame := congrArg (fun dir => (FileTree.segments dir).getLast?) h
  simp only [(hlast _).2, Option.some.injEq, List.append_cancel_left_eq] at hsame
  exact growth_injective search.suffix hsame

/-- No more candidates are taken than there are reservations and entries: each has a last name of its own. -/
theorem rounds_le {rounds : Nat} (htaken : ∀ round < rounds, search.Taken (search.dir round)) :
    rounds ≤ search.remembered.dirs.length + search.state.tree.entries.length := by
  obtain ⟨first, hlast⟩ := search.exists_lastName
  -- an entry need not be under the path that was asked for, but it has its last name
  let names := (search.remembered.dirs.map fun dir => (FileTree.segments dir).getLast?) ++
    search.state.tree.entries.map fun entry => entry.1.getLast?
  have hmem : ∀ round < rounds, some (first ++ growth search.suffix round) ∈ names.toFinset := by
    intro round hround
    rw [List.mem_toFinset, List.mem_append]
    refine (htaken round hround).imp (fun hdir => ?_) fun htree => ?_
    · exact List.mem_map.2 ⟨_, hdir, (hlast round).2⟩
    · exact FileTree.mem_of_isTaken (hlast round).1 (hlast round).2 htree
  have hinjective : Function.Injective fun round => some (first ++ growth search.suffix round) := fun m n h =>
    growth_injective search.suffix (List.append_cancel_left (Option.some.inj h))
  calc rounds ≤ names.toFinset.card :=
        Finset.le_card_of_inj_on_range _ hmem fun m _ n _ h => hinjective h
    _ ≤ names.length := names.toFinset_card_le
    _ = search.remembered.dirs.length + search.state.tree.entries.length := by simp [names]

/-- The search comes to a candidate that is not taken. -/
theorem exists_not_taken : ∃ rounds, (∀ round < rounds, search.Taken (search.dir round)) ∧
    ¬search.Taken (search.dir rounds) := by
  classical
  have hsome : ∃ round, ¬search.Taken (search.dir round) := by
    by_contra hall
    rw [not_exists] at hall
    have hbound : search.remembered.dirs.length + search.state.tree.entries.length + 1 ≤ _ :=
      search.rounds_le fun round _ => not_not.1 (hall round)
    omega
  exact ⟨Nat.find hsome, fun round hround => not_not.1 (Nat.find_min hsome hround), Nat.find_spec hsome⟩

end DiskSearch

/-! ## The search, round by round -/

/-- A search ends with the first id whose directory is not known to be taken. -/
theorem firstFree_settles {σ : Type} {workspace : Workspace σ} {dirs : List Text} {s : σ} :
    ∀ {grownBy : List Text} {id : Text} {answer : Except ReservationError Bool} (rest : List Text),
    (∀ k < grownBy.length,
      runOn (ask workspace dirs (workspace.workflowDir (grown id (grownBy.take k)) [])) s = (.ok true, s)) →
    runOn (ask workspace dirs (workspace.workflowDir (grown id grownBy) [])) s = (answer, s) → answer ≠ .ok true →
    runOn (firstFree workspace dirs (grownBy ++ rest) id) s = (answer.map fun _ => grown id grownBy, s)
  | [], id, answer, rest, _, hlast, hnot => by
    rw [grown_nil] at hlast ⊢
    rw [List.nil_append, firstFree_eq, Attempt.runOn_bind, hlast]
    cases answer with
    | error e => rfl
    | ok taken =>
      cases taken with
      | true => exact absurd rfl hnot
      | false => rfl
  | suffix :: grownBy, id, answer, rest, hbefore, hlast, hnot => by
    have hfirst : runOn (ask workspace dirs (workspace.workflowDir id [])) s = (.ok true, s) := hbefore 0 (by simp)
    rw [List.cons_append, firstFree_eq, Attempt.runOn_bind_ok hfirst]
    exact firstFree_settles rest (fun k hk => hbefore (k + 1) (by simpa using hk)) hlast hnot

theorem take_range {α : Type} (f : Nat → α) {m n : Nat} (h : m ≤ n) :
    ((List.range n).map f).take m = (List.range m).map f := by
  rw [← List.map_take, List.take_range, Nat.min_eq_left h]

namespace DiskSearch

variable {search : DiskSearch} {dir : Text} {rounds drawn : Nat}

theorem ask_taken (h : search.Taken dir) :
    runOn (ask (DiskStorage.workspaceAt search.home) search.remembered.dirs dir) search.state =
      (.ok true, search.state) := by
  unfold ask
  by_cases hdir : dir ∈ search.remembered.dirs
  · rw [if_pos (by simpa using hdir)]
    rfl
  · rw [if_neg (by simpa using hdir), Attempt.runOn_adapt,
      show runOn ((DiskStorage.workspaceAt search.home).isTaken dir) _ = _ from DiskStorage.runOn_isTaken dir _,
      h.resolve_left hdir]
    rfl

theorem ask_not_taken (h : ¬search.Taken dir) :
    runOn (ask (DiskStorage.workspaceAt search.home) search.remembered.dirs dir) search.state =
      (match search.state.tree.isTaken dir with
        | .ok _ => .ok false
        | .error _ => .error (.storage (.checkFailed dir)), search.state) := by
  rw [Taken, not_or] at h
  unfold ask
  rw [if_neg (by simpa using h.1), Attempt.runOn_adapt,
    show runOn ((DiskStorage.workspaceAt search.home).isTaken dir) _ = _ from DiskStorage.runOn_isTaken dir _]
  rcases htree : search.state.tree.isTaken dir with e | _ | _
  · rfl
  · rfl
  · exact absurd htree h.2

/-- What a search comes to is told by the first candidate that is not taken. -/
theorem firstFree_eq_of_taken (htaken : ∀ round < rounds, search.Taken (search.dir round))
    (hnot : ¬search.Taken (search.dir rounds)) (hdrawn : rounds ≤ drawn) :
    runOn (firstFree (DiskStorage.workspaceAt search.home) search.remembered.dirs
        ((List.range drawn).map search.suffix) (base search.name search.now.stampText)) search.state =
      (match search.state.tree.isTaken (search.dir rounds) with
        | .ok _ => .ok (search.candidate rounds)
        | .error _ => .error (.storage (.checkFailed (search.dir rounds))), search.state) := by
  have hgrown : ∀ round, grown (base search.name search.now.stampText) ((List.range round).map search.suffix) =
      search.candidate round := fun round => grown_range search.suffix _ round
  have hlast := ask_not_taken hnot
  rw [dir, ← hgrown] at hlast
  rw [← List.take_append_drop rounds ((List.range drawn).map search.suffix), take_range search.suffix hdrawn,
    firstFree_settles _ (fun round hround => ?_) hlast fun hok => ?_]
  · rw [hgrown, ← dir]
    cases search.state.tree.isTaken (search.dir rounds) <;> rfl
  · rw [List.length_map, List.length_range] at hround
    rw [take_range search.suffix hround.le, hgrown]
    exact ask_taken (htaken round hround)
  · split at hok <;> cases hok

/-- The search takes so many rounds: it asks about as many taken directories, and about one more.  It does not matter
how many more suffixes are drawn. -/
structure Takes (search : DiskSearch) (rounds : Nat) : Prop where
  taken : ∀ round < rounds, search.Taken (search.dir round)
  not_taken : ¬search.Taken (search.dir rounds)
  counted : ∀ known : Finset Text, (∀ round, search.Taken (search.dir round) → search.dir round ∈ known) →
    rounds ≤ known.card
  bounded : rounds ≤ search.remembered.dirs.length + search.state.tree.entries.length
  given : search.state.tree.isTaken (search.dir rounds) = .ok false → ∀ drawn ≥ rounds,
    search.outcome drawn = (.ok (search.candidate rounds),
      (⟨search.now.stampText, search.dir rounds :: search.remembered.dirs⟩, search.state))
  failed : ∀ e, search.state.tree.isTaken (search.dir rounds) = .error e → ∀ drawn ≥ rounds,
    search.outcome drawn =
      (.error (.storage (.checkFailed (search.dir rounds))), (search.remembered, search.state))

/-- **Every search comes to an end**, whatever is reserved, whatever is on disk, and however badly the suffixes are
drawn. -/
theorem exists_takes (search : DiskSearch) : ∃ rounds, search.Takes rounds := by
  obtain ⟨rounds, htaken, hnot⟩ := search.exists_not_taken
  have hsearch := fun drawn (hdrawn : rounds ≤ drawn) => firstFree_eq_of_taken htaken hnot hdrawn
  refine ⟨rounds, htaken, hnot, fun known hknown => ?_, search.rounds_le htaken, fun hfree drawn hdrawn => ?_,
    fun e hfail drawn hdrawn => ?_⟩
  · exact Finset.le_card_of_inj_on_range search.dir (fun round hround => hknown round (htaken round hround))
      fun m _ n _ h => search.dir_injective h
  · rw [outcome, reserve_eq, ← remembered, hsearch drawn hdrawn, hfree]
    simp only [remembered, Reservations.inSecond_stamp]
    rfl
  · rw [outcome, reserve_eq, ← remembered, hsearch drawn hdrawn, hfail]

/-- A search that meets a reserved directory and one that is there, with the same suffix every time. -/
def crowded : DiskSearch where
  home := "/data".toList
  state := { tree := {
    workingDir := []
    entries := [(["data".toList], .directory), (["data".toList, jobsFolder], .directory),
      (["data".toList, jobsFolder, "daily-160309-140507-aB".toList], .directory)] } }
  reserved := ⟨"160309-140507".toList, ["/data/oozie-jobs/daily-160309-140507".toList]⟩
  now := .sample 7
  name := "daily".toList
  suffix := fun _ => "aB".toList
  isSuffix := fun _ => show IsSuffix "aB".toList by decide

example : (crowded.outcome 5).1 = .ok "daily-160309-140507-aB-aB".toList := by decide

end DiskSearch
end JobId
end ImportDispatch
