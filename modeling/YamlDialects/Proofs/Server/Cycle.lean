import Mathlib.Logic.ExistsUnique
import YamlDialects.Server.Document

/-!
The reconcile cycle of one document. Its history is told without generations, by what was asked of it and in which
order; the generations and the state of the document are then shown to be what the history says. Snapshots may
overlap: older ones may still be unfinished when newer ones are taken, and may end in any order.
-/

set_option autoImplicit false

namespace YamlDialects.Document

-- An update and an invalidation are both edits. A finish names the moment at which its snapshot was taken.
inductive Happening where
  | edited
  | began (taken : Option Snapshot)
  | finished (moment : Nat) (current : Bool)
deriving DecidableEq

abbrev History := List Happening

namespace History

def snapshotAt? (past : History) (moment : Nat) : Option Snapshot :=
  match past[moment]? with
  | some (.began taken) => taken
  | _ => none

def edits (past : History) : Nat :=
  past.count .edited

structure Unfinished (past : History) (moment : Nat) (snapshot : Snapshot) : Prop where
  taken : past.snapshotAt? moment = some snapshot
  awaited : ∀ current, .finished moment current ∉ past

end History

open History

inductive Lives (text : String) (version : Int) : History → Document → Prop where
  | opened : Lives text version [] (opened text version)
  | update (past : History) (document : Document) (newText : String) (newVersion : Int)
      (lives : Lives text version past document) :
      Lives text version (past ++ [.edited]) (document.update newText newVersion)
  | invalidate (past : History) (document : Document) (lives : Lives text version past document) :
      Lives text version (past ++ [.edited]) document.invalidate
  | begin (past : History) (document : Document) (lives : Lives text version past document) :
      Lives text version (past ++ [.began document.begin.1]) document.begin.2
  | finish (past : History) (document : Document) (moment : Nat) (snapshot : Snapshot)
      (lives : Lives text version past document) (unfinished : past.Unfinished moment snapshot) :
      Lives text version (past ++ [.finished moment (document.finish snapshot.generation).1])
        (document.finish snapshot.generation).2

namespace History

theorem snapshot_at_bound (past : History) (moment : Nat) (snapshot : Snapshot)
    (taken : past.snapshotAt? moment = some snapshot) : moment < past.length := by
  unfold snapshotAt? at taken
  cases found : past[moment]? with
  | none => simp [found] at taken
  | some happening => exact (List.getElem?_eq_some_iff.mp found).1

theorem snapshot_at_append (past : History) (happening : Happening) (moment : Nat) (bound : moment < past.length) :
    (past ++ [happening]).snapshotAt? moment = past.snapshotAt? moment := by
  rw [snapshotAt?, snapshotAt?, List.getElem?_append_left bound]

theorem snapshot_at_cases (past : History) (happening : Happening) (moment : Nat) (snapshot : Snapshot)
    (taken : (past ++ [happening]).snapshotAt? moment = some snapshot) :
    past.snapshotAt? moment = some snapshot ∨ (moment = past.length ∧ happening = .began (some snapshot)) := by
  have bound := snapshot_at_bound _ moment snapshot taken
  rw [List.length_append, List.length_singleton] at bound
  by_cases old : moment < past.length
  · rw [snapshot_at_append past happening moment old] at taken
    exact .inl taken
  · have last : moment = past.length := by omega
    subst last
    refine .inr ⟨rfl, ?_⟩
    rw [snapshotAt?, List.getElem?_concat_length] at taken
    cases happening with
    | began found => exact congrArg Happening.began taken
    | edited => simp at taken
    | finished moment current => simp at taken

theorem edits_append (past : History) (happening : Happening) :
    edits (past ++ [happening]) = past.edits + if happening = .edited then 1 else 0 := by
  rw [edits, edits, List.count_append, List.count_singleton]
  simp

theorem edits_split (past : History) (moment : Nat) : edits (past.take moment) + edits (past.drop moment) = past.edits := by
  rw [edits, edits, edits, ← List.count_append, List.take_append_drop]

theorem edits_take_append (past : History) (happening : Happening) (moment : Nat) (bound : moment ≤ past.length) :
    edits ((past ++ [happening]).take moment) = edits (past.take moment) := by
  rw [List.take_append_of_le_length bound]

theorem unfinished_append (past : History) (happening : Happening) (moment : Nat) (snapshot : Snapshot)
    (other : ∀ current, happening ≠ .finished moment current) (unfinished : past.Unfinished moment snapshot) :
    Unfinished (past ++ [happening]) moment snapshot := by
  refine ⟨?_, ?_⟩
  · rw [snapshot_at_append past happening moment (snapshot_at_bound past moment snapshot unfinished.taken)]
    exact unfinished.taken
  · intro current member
    rcases List.mem_append.mp member with old | last
    · exact unfinished.awaited current old
    · exact other current (List.mem_singleton.mp last).symm

end History

-- What the state of a document says of the snapshots of its generation.
def Phase (past : History) (document : Document) : Prop :=
  match document.state with
  | .dirty => ∀ moment snapshot, past.snapshotAt? moment = some snapshot → snapshot.generation ≠ document.generation
  | .reconciling => ∃ moment snapshot, past.Unfinished moment snapshot ∧ snapshot.generation = document.generation
  | .clean => ∃ moment snapshot, past.snapshotAt? moment = some snapshot ∧ .finished moment true ∈ past ∧
      snapshot.generation = document.generation

structure Told (past : History) (document : Document) : Prop where
  generation : document.generation = past.edits + 1
  snapshots : ∀ moment snapshot, past.snapshotAt? moment = some snapshot →
    snapshot.generation = edits (past.take moment) + 1
  contents : ∀ moment snapshot, past.snapshotAt? moment = some snapshot → snapshot.generation = document.generation →
    snapshot.text = document.text ∧ snapshot.version = document.version
  single : ∀ first second one other, past.snapshotAt? first = some one → past.snapshotAt? second = some other →
    one.generation = other.generation → first = second
  finishes : ∀ moment current, .finished moment current ∈ past → moment < past.length
  phase : Phase past document

section Told

variable {past : History} {document : Document}

theorem told_generation_le (told : Told past document) (moment : Nat) (snapshot : Snapshot)
    (taken : past.snapshotAt? moment = some snapshot) : snapshot.generation ≤ document.generation := by
  rw [told.generation, told.snapshots moment snapshot taken, ← edits_split past moment]
  omega

theorem current_iff_unedited (told : Told past document) (moment : Nat) (snapshot : Snapshot)
    (taken : past.snapshotAt? moment = some snapshot) :
    snapshot.generation = document.generation ↔ .edited ∉ past.drop moment := by
  rw [told.generation, told.snapshots moment snapshot taken, ← edits_split past moment, ← List.count_eq_zero]
  change _ ↔ edits (past.drop moment) = 0
  omega

theorem dirty_unsnapped (told : Told past document) (dirty : document.state = .dirty) (moment : Nat)
    (snapshot : Snapshot) (taken : past.snapshotAt? moment = some snapshot) :
    snapshot.generation ≠ document.generation := by
  have phase := told.phase
  unfold Phase at phase
  rw [dirty] at phase
  exact phase moment snapshot taken

theorem finishes_append (told : Told past document) (happening : Happening)
    (bound : ∀ moment current, happening = .finished moment current → moment < past.length) :
    ∀ moment current, .finished moment current ∈ past ++ [happening] → moment < (past ++ [happening]).length := by
  intro moment current member
  rw [List.length_append]
  rcases List.mem_append.mp member with old | last
  · exact Nat.lt_add_right _ (told.finishes moment current old)
  · exact Nat.lt_add_right _ (bound moment current (List.mem_singleton.mp last).symm)

theorem edited_told (told : Told past document) (next : Document)
    (generation : next.generation = document.generation + 1) (dirty : next.state = .dirty) :
    Told (past ++ [.edited]) next := by
  have old : ∀ moment snapshot, snapshotAt? (past ++ [.edited]) moment = some snapshot →
      past.snapshotAt? moment = some snapshot := by
    intro moment snapshot taken
    rcases snapshot_at_cases past .edited moment snapshot taken with before | ⟨_, last⟩
    · exact before
    · cases last
  have passed : ∀ moment snapshot, snapshotAt? (past ++ [.edited]) moment = some snapshot →
      snapshot.generation ≠ next.generation := by
    intro moment snapshot taken same
    have bound := told_generation_le told moment snapshot (old moment snapshot taken)
    omega
  refine ⟨?_, ?_, ?_, ?_, finishes_append told .edited (by simp), ?_⟩
  · rw [generation, told.generation, edits_append, if_pos rfl]
  · intro moment snapshot taken
    have before := old moment snapshot taken
    rw [edits_take_append past .edited moment (Nat.le_of_lt (snapshot_at_bound past moment snapshot before))]
    exact told.snapshots moment snapshot before
  · intro moment snapshot taken same
    exact absurd same (passed moment snapshot taken)
  · intro first second one other takenFirst takenSecond
    exact told.single first second one other (old first one takenFirst) (old second other takenSecond)
  · unfold Phase
    rw [dirty]
    exact passed

theorem unedited_told (told : Told past document) (happening : Happening) (next : Document)
    (unedited : happening ≠ .edited) (silent : ∀ snapshot, happening ≠ .began (some snapshot))
    (generation : next.generation = document.generation) (text : next.text = document.text)
    (version : next.version = document.version)
    (bound : ∀ moment current, happening = .finished moment current → moment < past.length)
    (phase : Phase (past ++ [happening]) next) : Told (past ++ [happening]) next := by
  have old : ∀ moment snapshot, snapshotAt? (past ++ [happening]) moment = some snapshot →
      past.snapshotAt? moment = some snapshot := by
    intro moment snapshot taken
    rcases snapshot_at_cases past happening moment snapshot taken with before | ⟨_, last⟩
    · exact before
    · exact absurd last (silent snapshot)
  refine ⟨?_, ?_, ?_, ?_, finishes_append told happening bound, phase⟩
  · rw [generation, told.generation, edits_append, if_neg unedited, Nat.add_zero]
  · intro moment snapshot taken
    have before := old moment snapshot taken
    rw [edits_take_append past happening moment (Nat.le_of_lt (snapshot_at_bound past moment snapshot before))]
    exact told.snapshots moment snapshot before
  · intro moment snapshot taken same
    rw [text, version]
    exact told.contents moment snapshot (old moment snapshot taken) (same.trans generation)
  · intro first second one other takenFirst takenSecond
    exact told.single first second one other (old first one takenFirst) (old second other takenSecond)

theorem phase_append (told : Told past document) (happening : Happening)
    (silent : ∀ snapshot, happening ≠ .began (some snapshot))
    (other : ∀ moment snapshot current, past.snapshotAt? moment = some snapshot →
      snapshot.generation = document.generation → happening ≠ .finished moment current) :
    Phase (past ++ [happening]) document := by
  have phase := told.phase
  unfold Phase at phase ⊢
  cases state : document.state with
  | dirty =>
      rw [state] at phase
      intro moment snapshot taken
      rcases snapshot_at_cases past happening moment snapshot taken with before | ⟨_, last⟩
      · exact phase moment snapshot before
      · exact absurd last (silent snapshot)
  | reconciling =>
      rw [state] at phase
      obtain ⟨moment, snapshot, unfinished, current⟩ := phase
      refine ⟨moment, snapshot, ?_, current⟩
      exact unfinished_append past happening moment snapshot
        (fun result => other moment snapshot result unfinished.taken current) unfinished
  | clean =>
      rw [state] at phase
      obtain ⟨moment, snapshot, taken, finished, current⟩ := phase
      refine ⟨moment, snapshot, ?_, List.mem_append_left _ finished, current⟩
      rw [snapshot_at_append past happening moment (snapshot_at_bound past moment snapshot taken)]
      exact taken

theorem begin_of_dirty (dirty : document.state = .dirty) : document.begin =
    (some ⟨document.generation, document.version, document.text⟩, { document with state := .reconciling }) := by
  rw [begin, if_pos dirty]

theorem begin_of_not_dirty (settled : document.state ≠ .dirty) : document.begin = (none, document) := by
  rw [begin, if_neg settled]

theorem begin_told (told : Told past document) : Told (past ++ [.began document.begin.1]) document.begin.2 := by
  by_cases dirty : document.state = .dirty
  · rw [begin_of_dirty dirty]
    let fresh : Snapshot := ⟨document.generation, document.version, document.text⟩
    change Told (past ++ [.began (some fresh)]) { document with state := .reconciling }
    have here : snapshotAt? (past ++ [.began (some fresh)]) past.length = some fresh := by
      rw [snapshotAt?, List.getElem?_concat_length]
    -- No older snapshot has the generation of the new one.
    have either : ∀ moment snapshot, snapshotAt? (past ++ [.began (some fresh)]) moment = some snapshot →
        (past.snapshotAt? moment = some snapshot ∧ snapshot.generation ≠ document.generation) ∨
          (moment = past.length ∧ snapshot = fresh) := by
      intro moment snapshot taken
      rcases snapshot_at_cases past _ moment snapshot taken with before | ⟨last, same⟩
      · exact .inl ⟨before, dirty_unsnapped told dirty moment snapshot before⟩
      · exact .inr ⟨last, (Option.some.inj (Happening.began.inj same)).symm⟩
    refine ⟨?_, ?_, ?_, ?_, finishes_append told _ (by simp), ?_⟩
    · rw [edits_append, if_neg (by simp), Nat.add_zero]
      exact told.generation
    · intro moment snapshot taken
      rcases either moment snapshot taken with ⟨before, _⟩ | ⟨rfl, rfl⟩
      · rw [edits_take_append past _ moment (Nat.le_of_lt (snapshot_at_bound past moment snapshot before))]
        exact told.snapshots moment snapshot before
      · rw [edits_take_append past _ past.length (Nat.le_refl _), List.take_length]
        exact told.generation
    · intro moment snapshot taken current
      rcases either moment snapshot taken with ⟨_, stale⟩ | ⟨_, rfl⟩
      · exact absurd current stale
      · exact ⟨rfl, rfl⟩
    · intro first second one other takenFirst takenSecond same
      rcases either first one takenFirst with ⟨oldFirst, staleFirst⟩ | ⟨lastFirst, rfl⟩
      · rcases either second other takenSecond with ⟨oldSecond, _⟩ | ⟨_, rfl⟩
        · exact told.single first second one other oldFirst oldSecond same
        · exact absurd same staleFirst
      · rcases either second other takenSecond with ⟨_, staleSecond⟩ | ⟨lastSecond, _⟩
        · exact absurd same.symm staleSecond
        · rw [lastFirst, lastSecond]
    · refine ⟨past.length, fresh, ⟨here, ?_⟩, rfl⟩
      intro current member
      rcases List.mem_append.mp member with old | last
      · exact absurd (told.finishes past.length current old) (Nat.lt_irrefl _)
      · simp at last
  · rw [begin_of_not_dirty dirty]
    exact unedited_told told (.began none) document (by simp) (by simp) rfl rfl rfl (by simp)
      (phase_append told (.began none) (by simp) (by simp))

theorem finish_of_current (generation : Nat) (current : generation = document.generation) :
    document.finish generation = (true, { document with state := .clean }) := by
  rw [finish, if_pos current]

theorem finish_of_stale (generation : Nat) (stale : generation ≠ document.generation) :
    document.finish generation = (false, document) := by
  rw [finish, if_neg stale]

theorem finish_told (told : Told past document) (moment : Nat) (snapshot : Snapshot)
    (unfinished : past.Unfinished moment snapshot) :
    Told (past ++ [.finished moment (document.finish snapshot.generation).1]) (document.finish snapshot.generation).2 := by
  have bound := snapshot_at_bound past moment snapshot unfinished.taken
  by_cases current : snapshot.generation = document.generation
  · rw [finish_of_current _ current]
    refine unedited_told told (.finished moment true) _ (by simp) (by simp) rfl rfl rfl ?_ ?_
    · rintro _ _ ⟨⟩
      exact bound
    · refine ⟨moment, snapshot, ?_, by simp, current⟩
      rw [snapshot_at_append past _ moment bound]
      exact unfinished.taken
  · rw [finish_of_stale _ current]
    refine unedited_told told (.finished moment false) document (by simp) (by simp) rfl rfl rfl ?_ ?_
    · rintro _ _ ⟨⟩
      exact bound
    -- The snapshot that ends is not the one that the phase is about.
    · refine phase_append told (.finished moment false) (by simp) ?_
      rintro _ other _ taken isCurrent ⟨⟩
      obtain rfl := Option.some.inj (taken.symm.trans unfinished.taken)
      exact current isCurrent

end Told

theorem lives_told (text : String) (version : Int) (past : History) (document : Document)
    (lives : Lives text version past document) : Told past document := by
  induction lives with
  | opened =>
      refine ⟨rfl, ?_, ?_, ?_, ?_, ?_⟩
      · simp [snapshotAt?]
      · simp [snapshotAt?]
      · simp [snapshotAt?]
      · simp
      · intro moment snapshot taken
        simp [snapshotAt?] at taken
  | update past document newText newVersion _ told => exact edited_told told _ rfl rfl
  | invalidate past document _ told => exact edited_told told _ rfl rfl
  | begin past document _ told => exact begin_told told
  | finish past document moment snapshot _ unfinished told => exact finish_told told moment snapshot unfinished

theorem reconciling_iff (past : History) (document : Document) (told : Told past document) :
    document.state = .reconciling ↔
      ∃! moment, ∃ snapshot, past.Unfinished moment snapshot ∧ snapshot.generation = document.generation := by
  have phase := told.phase
  unfold Phase at phase
  constructor
  · intro reconciling
    rw [reconciling] at phase
    obtain ⟨moment, snapshot, unfinished, current⟩ := phase
    refine ⟨moment, ⟨snapshot, unfinished, current⟩, ?_⟩
    rintro second ⟨other, alsoUnfinished, alsoCurrent⟩
    exact told.single second moment other snapshot alsoUnfinished.taken unfinished.taken (alsoCurrent.trans current.symm)
  · rintro ⟨moment, ⟨snapshot, unfinished, current⟩, _⟩
    cases state : document.state with
    | reconciling => rfl
    | dirty =>
        rw [state] at phase
        exact absurd current (phase moment snapshot unfinished.taken)
    | clean =>
        rw [state] at phase
        obtain ⟨second, other, taken, finished, alsoCurrent⟩ := phase
        obtain rfl := told.single second moment other snapshot taken unfinished.taken (alsoCurrent.trans current.symm)
        exact absurd finished (unfinished.awaited true)

theorem clean_iff (past : History) (document : Document) (told : Told past document) :
    document.state = .clean ↔ ∃ moment snapshot, past.snapshotAt? moment = some snapshot ∧
      snapshot.generation = document.generation ∧ .finished moment true ∈ past := by
  have phase := told.phase
  unfold Phase at phase
  constructor
  · intro clean
    rw [clean] at phase
    obtain ⟨moment, snapshot, taken, finished, current⟩ := phase
    exact ⟨moment, snapshot, taken, current, finished⟩
  · rintro ⟨moment, snapshot, taken, current, finished⟩
    cases state : document.state with
    | clean => rfl
    | dirty =>
        rw [state] at phase
        exact absurd current (phase moment snapshot taken)
    | reconciling =>
        rw [state] at phase
        obtain ⟨second, other, unfinished, alsoCurrent⟩ := phase
        obtain rfl := told.single second moment other snapshot unfinished.taken taken (alsoCurrent.trans current.symm)
        exact absurd finished (unfinished.awaited true)

theorem reconcile_cycle (text : String) (version : Int) (past : History) (document : Document)
    (lives : Lives text version past document) :
    (∀ moment snapshot, past.Unfinished moment snapshot →
      ((document.finish snapshot.generation).1 = true ↔ .edited ∉ past.drop moment) ∧
      ((document.finish snapshot.generation).1 = true →
        snapshot.text = document.text ∧ snapshot.version = document.version)) ∧
    (document.begin.1.isSome ↔ document.state = .dirty) ∧
    (document.state = .reconciling ↔
      ∃! moment, ∃ snapshot, past.Unfinished moment snapshot ∧ snapshot.generation = document.generation) ∧
    (document.state = .clean ↔ ∃ moment snapshot, past.snapshotAt? moment = some snapshot ∧
      snapshot.generation = document.generation ∧ .finished moment true ∈ past) := by
  have told := lives_told text version past document lives
  refine ⟨?_, ?_, reconciling_iff past document told, clean_iff past document told⟩
  · intro moment snapshot unfinished
    have current : (document.finish snapshot.generation).1 = true ↔ snapshot.generation = document.generation := by
      by_cases same : snapshot.generation = document.generation
      · rw [finish_of_current _ same]
        exact iff_of_true rfl same
      · rw [finish_of_stale _ same]
        exact iff_of_false (by simp) same
    refine ⟨current.trans (current_iff_unedited told moment snapshot unfinished.taken), ?_⟩
    intro accepted
    exact told.contents moment snapshot unfinished.taken (current.mp accepted)
  · by_cases dirty : document.state = .dirty
    · simp [begin_of_dirty dirty, dirty]
    · simp [begin_of_not_dirty dirty, dirty]

def overtakenPast : History :=
  [.began (some ⟨1, 1, "a: 1"⟩), .edited, .began (some ⟨2, 2, "a: 2"⟩)]

theorem reconcile_cycle_overtaken :
    Lives "a: 1" 1 overtakenPast ⟨"a: 2", 2, 2, .reconciling⟩ ∧
      ((Document.mk "a: 2" 2 2 .reconciling).finish 1).1 = false ∧
      ((Document.mk "a: 2" 2 2 .reconciling).finish 2).1 = true := by
  have lives : Lives "a: 1" 1 overtakenPast ⟨"a: 2", 2, 2, .reconciling⟩ :=
    .begin _ _ (.update _ _ "a: 2" 2 (.begin _ _ .opened))
  have older : overtakenPast.Unfinished 0 ⟨1, 1, "a: 1"⟩ := ⟨rfl, by simp [overtakenPast]⟩
  have newer : overtakenPast.Unfinished 2 ⟨2, 2, "a: 2"⟩ := ⟨rfl, by simp [overtakenPast]⟩
  obtain ⟨finishes, _⟩ := reconcile_cycle "a: 1" 1 overtakenPast _ lives
  refine ⟨lives, ?_, ?_⟩
  · rw [Bool.eq_false_iff, ne_eq, (finishes 0 _ older).1]
    simp [overtakenPast]
  · rw [(finishes 2 _ newer).1]
    simp [overtakenPast]

end YamlDialects.Document
