import Weave.Proofs.Enumeration.Numbers
import Weave.Proofs.Text.Numeral

/-!
# Consistent numberings

An author numbers a list consistently when its whole numbers come in runs `1, 2, …`, with decimal
numbers such as `2.1` behind any of them.  The first run of such a list is shown as it is written.
Each later run begins with a `1` behind a higher number, so its items are counted, and in a count
every item takes a place, also one that shows a decimal number.

* `numbersFrom` is the two walks of `displayNumbers` in one, and `numbersFrom_append` says that no
  count begins where there is no `1`.
* `numbersFrom_run` is the step over one run and `numbersFrom_later` the induction over the runs.
* `mapIdx_counted_runFrom_iff` compares the count of a run with the numbers of its author.
-/

namespace Weave.Ordinal

/-! ## Numberings -/

/-- A run of items, given by the decimal numbers behind each of its whole numbers. -/
abbrev NumberedRun := List (List Text)

/-- The items of a run that counts from `n` on. -/
def runFrom (n : Nat) : NumberedRun → List Ordinal
  | [] => []
  | decimals :: run => .whole n :: (decimals.map .decimal ++ runFrom (n + 1) run)

/-- A consistent numbering: one or more runs that count from one. -/
structure Numbering where
  first : NumberedRun
  later : List NumberedRun
  ne_nil : ∀ run ∈ first :: later, run ≠ []
  /-- Every run but the last one reaches two. -/
  two_le_length : ∀ run ∈ (first :: later).dropLast, 2 ≤ run.length

/-- The ordinals of the items. -/
def Numbering.ordinals (l : Numbering) : List Ordinal := (l.first :: l.later).flatMap (runFrom 1)

/-- The number that the author wrote, if there is one. -/
def authored : Ordinal → Text
  | missing => []
  | whole n => Text.ofNat n
  | decimal text => text

/-- What an item shows at its place in a run that is counted. -/
def counted (place : Nat) : Ordinal → Text
  | decimal text => text
  | _ => Text.ofNat (place + 1)

/-! ## Places -/

section Places

variable {α β : Type} (f : Nat → α → β) (place : Nat)

theorem mapIdx_add_cons (a : α) (l : List α) :
    (a :: l).mapIdx (fun i => f (place + i))
      = f place a :: l.mapIdx fun i => f (place + 1 + i) := by
  rw [List.mapIdx_cons]
  simp only [Nat.add_zero, Nat.add_assoc, Nat.add_comm 1]

theorem mapIdx_add_append (l m : List α) :
    (l ++ m).mapIdx (fun i => f (place + i))
      = l.mapIdx (fun i => f (place + i)) ++ m.mapIdx fun i => f (place + l.length + i) := by
  rw [List.mapIdx_append]
  simp only [Nat.add_assoc, Nat.add_comm l.length]

end Places

/-! ## The two walks as one -/

/-- The numbers shown for items from `index` on, where `seenHigher` and `start` say what stands
before them. -/
def numbersFrom (seenHigher : Bool) (index : Nat) (start : Option Nat) (items : List Ordinal) :
    List Text :=
  shownFrom index start (items.zip (restartsFrom seenHigher items))

theorem numbersFrom_cons (seenHigher : Bool) (index : Nat) (start : Option Nat)
    (ordinal : Ordinal) (items : List Ordinal) :
    numbersFrom seenHigher index start (ordinal :: items)
      = shown index (if ordinal == .whole 1 && seenHigher then some index else start) ordinal
        :: numbersFrom (seesHigher seenHigher ordinal) (index + 1)
            (if ordinal == .whole 1 && seenHigher then some index else start) items := by
  rw [numbersFrom, restartsFrom_cons, List.zip_cons_cons, shownFrom]
  rfl

/-- Where no item is a `1`, the walk counts on from where it counts. -/
theorem numbersFrom_append {items : List Ordinal} (hone : .whole 1 ∉ items)
    (seenHigher : Bool) (index : Nat) (start : Option Nat) (later : List Ordinal) :
    numbersFrom seenHigher index start (items ++ later)
      = items.mapIdx (fun place => shown (index + place) start)
        ++ numbersFrom (items.foldl seesHigher seenHigher) (index + items.length) start later := by
  induction items generalizing seenHigher index with
  | nil => rfl
  | cons ordinal items ih =>
    rw [List.mem_cons, not_or] at hone
    obtain ⟨hne, hone⟩ := hone
    have hrestart : (ordinal == .whole 1 && seenHigher) = false := by
      simp [Ne.symm hne]
    rw [List.cons_append, numbersFrom_cons, hrestart, if_neg Bool.false_ne_true, ih hone,
      mapIdx_add_cons (shown · start), List.length_cons, Nat.add_assoc, Nat.add_comm 1]
    rfl

/-- A higher number that has been seen stays seen as long as no `1` comes. -/
theorem foldl_seesHigher_true {items : List Ordinal} (hone : .whole 1 ∉ items) :
    items.foldl seesHigher true = true := by
  induction items with
  | nil => rfl
  | cons ordinal items ih =>
    rw [List.mem_cons, not_or] at hone
    obtain ⟨hne, hone⟩ := hone
    have hsees : seesHigher true ordinal = true :=
      seesHigher_eq_true_iff.mpr (.inr ⟨Ne.symm hne, rfl⟩)
    rw [List.foldl_cons, hsees, ih hone]

/-! ## One run -/

theorem one_notMem_runFrom {n : Nat} (hn : 1 < n) (run : NumberedRun) :
    .whole 1 ∉ runFrom n run := by
  induction run generalizing n with
  | nil => exact List.not_mem_nil
  | cons decimals run ih =>
    have hne : n ≠ 1 := by omega
    simp [runFrom, Ne.symm hne, ih (Nat.lt_succ_of_lt hn)]

/-- Behind the `1` of a run a higher number is seen exactly if the run goes on. -/
theorem foldl_seesHigher_runFrom (decimals : List Text) (run : NumberedRun) :
    (decimals.map decimal ++ runFrom 2 run).foldl seesHigher false = !run.isEmpty := by
  have hdecimals : (decimals.map decimal).foldl seesHigher false = false := by
    induction decimals with
    | nil => rfl
    | cons text decimals ih => exact ih
  rw [List.foldl_append, hdecimals]
  cases run with
  | nil => rfl
  | cons next run =>
    have hone : .whole 1 ∉ next.map decimal ++ runFrom 3 run := by
      simp [one_notMem_runFrom]
    exact foldl_seesHigher_true hone

/-- A run is shown by one count: its own if a higher number stands before it. -/
theorem numbersFrom_run {run : NumberedRun} (hrun : run ≠ []) (seenHigher : Bool)
    (index : Nat) (start : Option Nat) (later : List Ordinal) :
    numbersFrom seenHigher index start (runFrom 1 run ++ later)
      = (runFrom 1 run).mapIdx
          (fun place => shown (index + place) (if seenHigher then some index else start))
        ++ numbersFrom (decide (2 ≤ run.length)) (index + (runFrom 1 run).length)
            (if seenHigher then some index else start) later := by
  obtain ⟨decimals, run, rfl⟩ := List.exists_cons_of_ne_nil hrun
  have hone : .whole 1 ∉ decimals.map decimal ++ runFrom 2 run := by
    simp [one_notMem_runFrom]
  have hsees : seesHigher seenHigher (.whole 1) = false := rfl
  have hlength : decide (2 ≤ (decimals :: run).length) = !run.isEmpty := by
    cases run <;> simp
  rw [runFrom, List.cons_append, numbersFrom_cons, hsees, numbersFrom_append hone,
    foldl_seesHigher_runFrom, hlength, mapIdx_add_cons (shown · _), List.length_cons,
    Nat.add_assoc, Nat.add_comm 1]
  simp

theorem shown_none_of_mem_runFrom {n : Nat} (hn : 0 < n) {run : NumberedRun} {ordinal : Ordinal}
    (h : ordinal ∈ runFrom n run) (index : Nat) : shown index none ordinal = authored ordinal := by
  induction run generalizing n with
  | nil => contradiction
  | cons decimals run ih =>
    simp only [runFrom, List.mem_cons, List.mem_append, List.mem_map] at h
    rcases h with rfl | ⟨text, -, rfl⟩ | h
    · simp [shown, authored, hn]
    · rfl
    · exact ih (Nat.succ_pos n) h

/-- Before any count a run shows the numbers of its author. -/
theorem mapIdx_shown_none (index : Nat) (run : NumberedRun) :
    (runFrom 1 run).mapIdx (fun place => shown (index + place) none)
      = (runFrom 1 run).map authored := by
  refine List.ext_getElem (by simp) fun i hi _ => ?_
  rw [List.getElem_mapIdx, List.getElem_map]
  exact shown_none_of_mem_runFrom Nat.one_pos (List.getElem_mem _) _

/-- In a count every item takes a place. -/
theorem shown_start (index : Nat) :
    (fun place => shown (index + place) (some index)) = counted := by
  funext place ordinal
  cases ordinal with
  | decimal text => rfl
  | missing => simp [shown, counted]
  | whole n => simp [shown, counted]

/-! ## All runs -/

/-- The runs behind a higher number are counted, each by itself. -/
theorem numbersFrom_later {runs : List NumberedRun} (hne : ∀ run ∈ runs, run ≠ [])
    (htwo : ∀ run ∈ runs.dropLast, 2 ≤ run.length) (index : Nat) (start : Option Nat) :
    numbersFrom true index start (runs.flatMap (runFrom 1))
      = runs.flatMap fun run => (runFrom 1 run).mapIdx counted := by
  induction runs generalizing index start with
  | nil => rfl
  | cons run runs ih =>
    rw [List.forall_mem_cons] at hne
    rw [List.flatMap_cons, List.flatMap_cons, numbersFrom_run hne.1, if_pos rfl, shown_start]
    cases runs with
    | nil => simp [numbersFrom, shownFrom]
    | cons next runs =>
      rw [List.dropLast_cons_cons, List.forall_mem_cons] at htwo
      rw [decide_eq_true htwo.1, ih hne.2 htwo.2]

theorem displayNumbers_runs (l : Numbering) :
    displayNumbers l.ordinals = (runFrom 1 l.first).map authored
      ++ l.later.flatMap fun run => (runFrom 1 run).mapIdx counted := by
  obtain ⟨first, later, hne, htwo⟩ := l
  rw [List.forall_mem_cons] at hne
  have hwalk := numbersFrom_run hne.1 false 0 none (later.flatMap (runFrom 1))
  rw [if_neg Bool.false_ne_true, mapIdx_shown_none] at hwalk
  refine hwalk.trans (congrArg _ ?_)
  cases later with
  | nil => rfl
  | cons run runs =>
    rw [List.dropLast_cons_cons, List.forall_mem_cons] at htwo
    rw [decide_eq_true htwo.1]
    exact numbersFrom_later hne.2 htwo.2 _ _

/-! ## Counts against the author's numbers -/

theorem mapIdx_counted_decimals (place : Nat) (decimals : List Text) :
    (decimals.map decimal).mapIdx (fun i => counted (place + i)) = decimals := by
  induction decimals generalizing place with
  | nil => rfl
  | cons text decimals ih =>
    rw [List.map_cons, mapIdx_add_cons counted, ih]
    rfl

theorem map_authored_decimals (decimals : List Text) :
    (decimals.map decimal).map authored = decimals := by
  rw [List.map_map]
  exact List.map_id decimals

/-- A count that has reached the number of a run shows the author's numbers exactly if it has not
passed that number and decimal numbers stand behind the last whole number only. -/
theorem mapIdx_counted_runFrom_iff {n place : Nat} (h : n ≤ place + 1) (run : NumberedRun) :
    (runFrom n run).mapIdx (fun i => counted (place + i)) = (runFrom n run).map authored
      ↔ run = [] ∨ place + 1 = n ∧ ∀ decimals ∈ run.dropLast, decimals = [] := by
  induction run generalizing n place with
  | nil => simp [runFrom]
  | cons decimals run ih =>
    have hhead : counted place (whole n) = authored (whole n) ↔ place + 1 = n :=
      Text.ofNat_injective.eq_iff
    have hrest := @ih (n + 1) (place + 1 + decimals.length) (by omega)
    rw [runFrom, mapIdx_add_cons counted, mapIdx_add_append counted, List.map_cons,
      List.map_append, map_authored_decimals, mapIdx_counted_decimals, List.length_map,
      List.cons.injEq, hhead, List.append_cancel_left_eq, hrest]
    cases run with
    | nil => simp
    | cons next run =>
      rw [List.dropLast_cons_cons, List.forall_mem_cons]
      simp only [List.cons_ne_nil, false_or]
      refine and_congr_right fun hplace => and_congr_left fun _ => ?_
      rw [← List.length_eq_zero_iff]
      omega

/-- Pieces of the same lengths make up the same list only if they are the same. -/
theorem flatMap_eq_flatMap_iff {α β : Type} {f g : α → List β} {l : List α}
    (h : ∀ a ∈ l, (f a).length = (g a).length) :
    l.flatMap f = l.flatMap g ↔ ∀ a ∈ l, f a = g a := by
  induction l with
  | nil => simp
  | cons a l ih =>
    rw [List.forall_mem_cons] at h
    rw [List.flatMap_cons, List.flatMap_cons, List.forall_mem_cons, ← ih h.2]
    exact ⟨fun happend => List.append_inj happend h.1, fun ⟨ha, hl⟩ => by rw [ha, hl]⟩

/-- The first run of a consistent numbering shows the numbers of its author, and the items of every
later run are counted.  So all items show their author's numbers exactly if no later run has a
decimal number before its last whole number. -/
theorem displayNumbers_numbering (l : Numbering) :
    displayNumbers l.ordinals = (runFrom 1 l.first).map authored
        ++ l.later.flatMap (fun run => (runFrom 1 run).mapIdx counted)
      ∧ (displayNumbers l.ordinals = l.ordinals.map authored
          ↔ ∀ run ∈ l.later, ∀ decimals ∈ run.dropLast, decimals = []) := by
  have hruns := displayNumbers_runs l
  have hauthored : l.ordinals.map authored = (runFrom 1 l.first).map authored
      ++ l.later.flatMap fun run => (runFrom 1 run).map authored := by
    rw [Numbering.ordinals, List.flatMap_cons, List.map_append, List.map_flatMap]
  refine ⟨hruns, ?_⟩
  rw [hruns, hauthored, List.append_cancel_left_eq, flatMap_eq_flatMap_iff fun run _ => by simp]
  refine forall₂_congr fun run hrun => ?_
  have hne : run ≠ [] := l.ne_nil run (List.mem_cons_of_mem _ hrun)
  have hiff := @mapIdx_counted_runFrom_iff 1 0 (Nat.le_refl 1) run
  simpa [hne] using hiff

/-- Behind a restart the decimal number of the second item makes the author's `2` a `3`. -/
theorem displayNumbers_decimalBehindRestart :
    let l : Numbering := ⟨[[], []], [[["1.1"], []]], by decide, by decide⟩
    l.ordinals = [.whole 1, .whole 2, .whole 1, .decimal "1.1", .whole 2]
      ∧ displayNumbers l.ordinals = ["1", "2", "1", "1.1", "3"].map String.toList
      ∧ displayNumbers l.ordinals ≠ l.ordinals.map authored := by
  decide

end Weave.Ordinal
