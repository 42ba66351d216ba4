import Weave.Proofs.Section.AnchorId

/-!
# The search for a free slug

A text whose slug is in use gets a number behind it.  The search for the number does not begin at
one: it goes on from the count of the slug, which says how far the searches before it came.

* `Search` is the search as a loop over the counts, and `search_slug` says that it ends with what
  `slug` answers (and with nothing else, by `Search.unique`).
* `Counted` is the invariant that makes the count a safe place to begin: each number up to the count
  of a slug makes a slug that is in use.  `Counted.reserve` and `Counted.slug` are its two steps.
* `slug_first_candidate` is the result for a whole run of calls: every slug is the first of its
  candidates that no call before has put in use.
-/

namespace Weave.Slugger

/-- The slugs that are tried for a text: its own, and that one with the numbers from one on. -/
def candidate (b : Text) : Nat → Text
  | 0 => b
  | n + 1 => numbered b (n + 1)

theorem candidate_of_pos (b : Text) {n : Nat} (h : 0 < n) : candidate b n = numbered b n := by
  cases n with
  | zero => contradiction
  | succ n => rfl

/-! ## Counts -/

variable {s s' : Slugger} {b id : Text}

theorem find?_taken_eq_none_iff : s.taken.find? (·.1 == b) = none ↔ b ∉ s.names := by
  rw [List.find?_eq_none, names, List.mem_map, not_exists]
  simp only [beq_iff_eq, not_and]

theorem count_eq_zero (h : b ∉ s.names) : s.count b = 0 := by
  unfold count
  rw [find?_taken_eq_none_iff.mpr h]

/-- A reserved slug starts without a number. -/
theorem count_reserve (s : Slugger) (id b : Text) : (s.reserve id).count b = s.count b := by
  unfold reserve
  split
  · rfl
  next htaken =>
    by_cases hid : id = b
    · subst hid
      rw [count_eq_zero fun hmem => htaken (isTaken_iff.mpr hmem)]
      simp [count]
    · simp [count, hid]

theorem count_setCount (h : b ∈ s.names) (n : Nat) (b' : Text) :
    (s.setCount b n).count b' = if b' = b then n else s.count b' := by
  have hkey : ((·.1 == b') : Text × Nat → Bool) ∘ (fun (t, m) => if t = b then (t, n) else (t, m))
      = (·.1 == b') := by
    funext entry
    dsimp only [Function.comp_apply]
    split <;> rfl
  unfold setCount count
  rw [List.find?_map, hkey]
  cases hfind : s.taken.find? (·.1 == b') with
  | none =>
    have hb : b' ≠ b := by
      rintro rfl
      exact find?_taken_eq_none_iff.mp hfind h
    simp [hb]
  | some entry =>
    obtain rfl : entry.1 = b' := by simpa using List.find?_some hfind
    by_cases hb : entry.1 = b <;> simp [hb]

theorem setCount_setCount (s : Slugger) (b : Text) (m n : Nat) :
    (s.setCount b m).setCount b n = s.setCount b n := by
  unfold setCount
  rw [List.map_map]
  refine congrArg Slugger.mk (List.map_congr_left fun entry _ => ?_)
  by_cases h : entry.1 = b <;> simp [h]

/-! ## The search as a loop -/

/-- The loop that looks for a free slug.  While the slug at hand is in use, the count of `b` goes up
by one and gives the next slug.  The loop ends with the slugs as they are then and with the slug
that it has found. -/
inductive Search (b : Text) : Slugger → Text → Slugger → Text → Prop where
  | found {s : Slugger} {slug : Text} (h : slug ∉ s.names) : Search b s slug s slug
  | next {s s' : Slugger} {slug free : Text} (h : slug ∈ s.names)
      (later : Search b ((s.reserve b).setCount b (s.count b + 1)) (numbered b (s.count b + 1))
        s' free) : Search b s slug s' free

/-- The loop ends in one way at most. -/
theorem Search.unique {s'' : Slugger} {slug free free' : Text} (h : Search b s slug s' free)
    (h' : Search b s slug s'' free') : s'' = s' ∧ free' = free := by
  induction h with
  | found hfree =>
    cases h' with
    | found _ => exact ⟨rfl, rfl⟩
    | next hused _ => exact absurd hused hfree
  | next hused _ ih =>
    cases h' with
    | found hfree => exact absurd hused hfree
    | next _ hlater => exact ih hlater

theorem reserve_of_mem (h : b ∈ s.names) : s.reserve b = s := by
  rw [reserve, if_pos (isTaken_iff.mpr h)]

/-- The loop runs through the numbers that are in use behind the count, up to the first free one. -/
theorem search_numbered {slug : Text} (hb : b ∈ s.names) (hslug : slug ∈ s.names) {n : Nat}
    (hcount : s.count b < n) (hfree : numbered b n ∉ s.names)
    (hused : ∀ k, s.count b < k → k < n → numbered b k ∈ s.names) :
    Search b s slug (s.setCount b n) (numbered b n) := by
  obtain ⟨d, hd⟩ := Nat.exists_eq_add_of_lt hcount
  induction d generalizing s slug with
  | zero =>
    refine .next hslug ?_
    rw [reserve_of_mem hb]
    obtain rfl : n = s.count b + 1 := by omega
    refine .found ?_
    rw [names_setCount]
    exact hfree
  | succ d ih =>
    refine .next hslug ?_
    rw [reserve_of_mem hb]
    have hnames := names_setCount (s := s) b (s.count b + 1)
    have hnow : (s.setCount b (s.count b + 1)).count b = s.count b + 1 := by
      rw [count_setCount hb, if_pos rfl]
    rw [← setCount_setCount s b (s.count b + 1) n]
    apply ih
    · rw [hnames]
      exact hb
    · rw [hnames]
      exact hused _ (by omega) (by omega)
    · rw [hnow]
      omega
    · rw [hnames]
      exact hfree
    · rw [hnow, hnames]
      exact fun k hk hkn => hused k (by omega) hkn
    · omega

/-- The numbers from the count of a slug to its next number make slugs that are in use. -/
theorem numbered_mem_of_lt_nextNumber {n : Nat} (hcount : s.count b < n) (h : n < s.nextNumber b) :
    numbered b n ∈ s.names := by
  by_contra hfree
  have hle := (isLeast_nextNumber s b).2 ⟨hcount, hfree⟩
  omega

/-- The search for the slug of a text ends with the slug that is handed out. -/
theorem search_slug (s : Slugger) (t : Text) :
    ∃ s', Search (base t) s (base t) s' (s.slug t).1 ∧ (s.slug t).2 = s'.reserve (s.slug t).1 := by
  unfold slug
  dsimp only
  split
  next htaken =>
    have hb := isTaken_iff.mp htaken
    obtain ⟨hcount, hfree⟩ := (isLeast_nextNumber s (base t)).1
    refine ⟨s.setCount (base t) (s.nextNumber (base t)), ?_, rfl⟩
    exact search_numbered hb hb hcount hfree fun k => numbered_mem_of_lt_nextNumber
  next htaken => exact ⟨s, .found fun hmem => htaken (isTaken_iff.mpr hmem), rfl⟩

/-! ## The count as a place to begin -/

/-- Each number up to the count of a slug makes a slug that is in use. -/
def Counted (s : Slugger) : Prop := ∀ b n, 0 < n → n ≤ s.count b → numbered b n ∈ s.names

theorem counted_empty : Counted empty := by
  intro b n hpos hle
  have hcount : empty.count b = 0 := rfl
  omega

theorem Counted.reserve (h : Counted s) (id : Text) : Counted (s.reserve id) := by
  intro b n hpos hle
  rw [count_reserve] at hle
  exact mem_names_reserve.mpr (.inr (h b n hpos hle))

/-- The numbers below the next number of a slug make slugs that are in use. -/
theorem Counted.numbered_mem (h : Counted s) {n : Nat} (hpos : 0 < n) (hn : n < s.nextNumber b) :
    numbered b n ∈ s.names := by
  by_cases hcount : n ≤ s.count b
  · exact h b n hpos hcount
  · exact numbered_mem_of_lt_nextNumber (by omega) hn

/-- Behind a search the count of its slug is the number found, and all numbers below it were in use
before. -/
theorem Counted.slug (h : Counted s) (t : Text) : Counted (s.slug t).2 := by
  intro b n hpos hle
  rw [mem_names_slug]
  unfold Slugger.slug at hle ⊢
  dsimp only at hle ⊢
  split at hle
  next htaken =>
    rw [if_pos htaken]
    rw [count_reserve, count_setCount (isTaken_iff.mp htaken)] at hle
    by_cases hb : b = base t
    · subst hb
      rw [if_pos rfl] at hle
      by_cases hlast : n = s.nextNumber (base t)
      · exact .inl (by rw [hlast])
      · exact .inr (h.numbered_mem hpos (by omega))
    · rw [if_neg hb] at hle
      exact .inr (h b n hpos hle)
  next htaken =>
    rw [count_reserve] at hle
    exact .inr (h b n hpos hle)

/-- A slug is the first of its candidates that is not in use. -/
theorem Counted.slug_eq_candidate (h : Counted s) (t : Text) :
    ∃ n, (s.slug t).1 = candidate (base t) n ∧ IsLeast {n | candidate (base t) n ∉ s.names} n := by
  unfold Slugger.slug
  dsimp only
  split
  next htaken =>
    obtain ⟨hcount, hfree⟩ := (isLeast_nextNumber s (base t)).1
    have hpos : 0 < s.nextNumber (base t) := by omega
    refine ⟨s.nextNumber (base t), (candidate_of_pos _ hpos).symm, ?_, ?_⟩
    · show candidate (base t) _ ∉ s.names
      rw [candidate_of_pos _ hpos]
      exact hfree
    · intro n hn
      cases n with
      | zero => exact absurd (isTaken_iff.mp htaken) hn
      | succ n =>
        by_contra hlt
        exact hn (h.numbered_mem (by omega) (by omega))
  next htaken =>
    exact ⟨0, rfl, fun hmem => htaken (isTaken_iff.mpr hmem), fun n _ => Nat.zero_le n⟩

/-! ## A run of calls -/

/-- A call to the slugs of a document. -/
inductive Call where
  /-- Asks for the slug of a text. -/
  | slug (t : Text)
  /-- Reserves an id. -/
  | reserve (id : Text)
  deriving DecidableEq, Repr

/-- The slugs behind a call. -/
def after (s : Slugger) : Call → Slugger
  | .slug t => (s.slug t).2
  | .reserve id => s.reserve id

/-- The name that a call hands out or reserves. -/
def answer (s : Slugger) : Call → Text
  | .slug t => (s.slug t).1
  | .reserve id => id

/-- The calls of a run, each with the name that it hands out or reserves. -/
def trace (s : Slugger) : List Call → List (Call × Text)
  | [] => []
  | call :: calls => (call, s.answer call) :: trace (s.after call) calls

theorem Counted.after (h : Counted s) (call : Call) : Counted (s.after call) := by
  cases call with
  | slug t => exact h.slug t
  | reserve id => exact h.reserve id

theorem Counted.run (h : Counted s) (calls : List Call) :
    Counted (calls.foldl Slugger.after s) := by
  induction calls generalizing s with
  | nil => exact h
  | cons call calls ih => exact ih (h.after call)

theorem mem_names_after {call : Call} :
    id ∈ (s.after call).names ↔ id = s.answer call ∨ id ∈ s.names := by
  cases call with
  | slug t => exact mem_names_slug
  | reserve id' => exact mem_names_reserve

/-- The names in use behind a run are those that its calls have handed out or reserved. -/
theorem mem_names_run {calls : List Call} :
    id ∈ (calls.foldl after s).names ↔ id ∈ (s.trace calls).map Prod.snd ∨ id ∈ s.names := by
  induction calls generalizing s with
  | nil => simp [trace]
  | cons call calls ih =>
    rw [List.foldl_cons, ih, mem_names_after, trace, List.map_cons, List.mem_cons, or_left_comm,
      or_assoc]

/-- No slug of a run was in use before the run. -/
theorem notMem_names_of_mem_trace {calls : List Call} {t : Text}
    (h : (.slug t, id) ∈ s.trace calls) : id ∉ s.names := by
  induction calls generalizing s with
  | nil => contradiction
  | cons call calls ih =>
    rcases List.mem_cons.mp h with heq | hlater
    · obtain ⟨rfl, rfl⟩ := Prod.mk.inj heq
      exact slug_notMem s t
    · exact fun hmem => ih hlater (mem_names_after.mpr (.inr hmem))

/-- No slug of a run is the answer of a call before. -/
theorem pairwise_trace (s : Slugger) (calls : List Call) :
    (s.trace calls).Pairwise fun earlier later => ∀ t, later.1 = .slug t → earlier.2 ≠ later.2 := by
  induction calls generalizing s with
  | nil => exact .nil
  | cons call calls ih =>
    refine .cons ?_ (ih (s.after call))
    rintro ⟨_, id⟩ hlater t rfl heq
    exact notMem_names_of_mem_trace hlater (mem_names_after.mpr (.inl heq.symm))

/-- After any calls, the search for the slug of a text ends, in one way only.  It finds the first of
the slug of the text and that slug with the numbers from one on that no call has handed out or
reserved.  So no slug is handed out that was handed out or reserved before. -/
theorem slug_first_candidate (calls : List Call) (t : Text) :
    let s := calls.foldl after empty
    let used := (empty.trace calls).map Prod.snd
    (∃ s', (∀ s'' free, Search (base t) s (base t) s'' free ↔ s'' = s' ∧ free = (s.slug t).1)
        ∧ (s.slug t).2 = s'.reserve (s.slug t).1)
      ∧ (∃ n, (s.slug t).1 = candidate (base t) n ∧ IsLeast {n | candidate (base t) n ∉ used} n)
      ∧ (empty.trace calls).Pairwise fun earlier later =>
          ∀ text, later.1 = .slug text → earlier.2 ≠ later.2 := by
  intro s used
  have hused : ∀ id, id ∈ s.names ↔ id ∈ used := by
    intro id
    rw [mem_names_run, or_iff_left (by simp [names, empty])]
  obtain ⟨n, hslug, hleast⟩ := (counted_empty.run calls).slug_eq_candidate t
  obtain ⟨s', hsearch, hafter⟩ := search_slug s t
  refine ⟨⟨s', fun s'' free => ⟨hsearch.unique, ?_⟩, hafter⟩, ⟨n, hslug, ?_, ?_⟩,
    pairwise_trace empty calls⟩
  · rintro ⟨rfl, rfl⟩
    exact hsearch
  · exact fun hmem => hleast.1 ((hused _).mpr hmem)
  · exact fun m hm => hleast.2 fun hmem => hm ((hused _).mp hmem)

example :
    (empty.trace [.slug "A 1", .reserve "a-2", .slug "A", .slug "A", .slug "A 1", .slug " & "]).map
        Prod.snd
      = ["a-1", "a-2", "a", "a-3", "a-1-1", "section"].map String.toList := by
  decide +kernel

end Weave.Slugger
