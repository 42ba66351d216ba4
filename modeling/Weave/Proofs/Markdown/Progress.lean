import Weave.Proofs.Markdown.Loops

/-!
# The progress of the collectors

Nothing about a loop over an index says that it ends: a run of inlines may return without having
moved the index, and the loop of the blocks that called it is then where it was.

* `Returns` is a run of a loop, with the runs of the loops that it calls inside, and `Turned` one
  turn of it that goes on.  A loop that never returns has no such run.
* `exists_returns` follows each loop to its end, by induction on the events that are left and on
  the rank of the loop; a call is one step of it (`lt_of_call`).
* `exists_turned` is a turn of the loop of the blocks.
* `collectors_progress` is the statement about all streams.
-/

namespace Weave.Markdown

/-! ## Runs of the loops -/

/-- The turn of a loop at an index; there is none at the end of the stream. -/
def turnAt? (source : Text) (events : List Event) (loop : Loop) (i : Nat) : Option Turn :=
  events[i]?.map (turn source loop)

/-- A run of a loop from an index to the index at which it returns. -/
inductive Returns (source : Text) (events : List Event) : Loop → Nat → Loop → Nat → Prop where
  | ended {loop : Loop} {i : Nat} (h : turnAt? source events loop i = none) :
      Returns source events loop i loop i
  | close {loop : Loop} {i : Nat} (h : turnAt? source events loop i = some .close) :
      Returns source events loop i loop (i + 1)
  | stop {loop : Loop} {i : Nat} (h : turnAt? source events loop i = some .stop) :
      Returns source events loop i loop i
  | next {loop later last : Loop} {i j : Nat}
      (h : turnAt? source events loop i = some (.next later))
      (rest : Returns source events later (i + 1) last j) : Returns source events loop i last j
  | call {loop inner result last : Loop} {i m j : Nat} {moves : Bool} {resume : Loop → Loop}
      (h : turnAt? source events loop i = some (.call moves inner resume))
      (inside : Returns source events inner (i + moves.toNat) result m)
      (rest : Returns source events (resume result) m last j) : Returns source events loop i last j

/-- A turn of a loop that goes on, with the index at which the next one begins. -/
inductive Turned (source : Text) (events : List Event) : Loop → Nat → Loop → Nat → Prop where
  | next {loop later : Loop} {i : Nat} (h : turnAt? source events loop i = some (.next later)) :
      Turned source events loop i later (i + 1)
  | call {loop inner result : Loop} {i m : Nat} {moves : Bool} {resume : Loop → Loop}
      (h : turnAt? source events loop i = some (.call moves inner resume))
      (inside : Returns source events inner (i + moves.toNat) result m) :
      Turned source events loop i (resume result) m

variable {source : Text} {events : List Event}

theorem Returns.unique {loop last last' : Loop} {i j j' : Nat}
    (h : Returns source events loop i last j) (h' : Returns source events loop i last' j') :
    last = last' ∧ j = j' := by
  induction h generalizing last' j' with
  | ended h =>
    cases h' with
    | ended _ => exact ⟨rfl, rfl⟩
    | _ => simp_all
  | close h =>
    cases h' with
    | close _ => exact ⟨rfl, rfl⟩
    | _ => simp_all
  | stop h =>
    cases h' with
    | stop _ => exact ⟨rfl, rfl⟩
    | _ => simp_all
  | next h _ ih =>
    cases h' with
    | next h' rest' =>
      obtain rfl := Turn.next.inj (Option.some.inj (h.symm.trans h'))
      exact ih rest'
    | _ => simp_all
  | call h _ _ ihInside ih =>
    cases h' with
    | call h' inside' rest' =>
      obtain ⟨rfl, rfl, rfl⟩ := Turn.call.inj (Option.some.inj (h.symm.trans h'))
      obtain ⟨rfl, rfl⟩ := ihInside inside'
      exact ih rest'
    | _ => simp_all

theorem Turned.unique {loop later later' : Loop} {i j j' : Nat}
    (h : Turned source events loop i later j) (h' : Turned source events loop i later' j') :
    later = later' ∧ j = j' := by
  cases h with
  | next h =>
    cases h' with
    | next h' =>
      obtain rfl := Turn.next.inj (Option.some.inj (h.symm.trans h'))
      exact ⟨rfl, rfl⟩
    | call h' _ => exact absurd (h.symm.trans h') nofun
  | call h inside =>
    cases h' with
    | next h' => exact absurd (h.symm.trans h') nofun
    | call h' inside' =>
      obtain ⟨rfl, rfl, rfl⟩ := Turn.call.inj (Option.some.inj (h.symm.trans h'))
      obtain ⟨rfl, rfl⟩ := inside.unique inside'
      exact ⟨rfl, rfl⟩

/-! ## Loops return -/

theorem read_nil (source : Text) (loop : Loop) : loop.read source [] = (loop, []) := by
  cases loop with
  | blocks close nodes =>
    rw [Loop.read, collectBlocks]
    simp [Warned.append, Reading.stay]
  | items ordered items =>
    rw [Loop.read, collectItems]
    simp [Warned.append, Reading.stay]
  | inlines close run =>
    rw [Loop.read, collectInlines]
    exact congrArg (fun run => (Loop.inlines close run, [])) (joinRuns_nil run)
  | table state =>
    rw [Loop.read, collectTable]
    rfl
  | text close t =>
    rw [Loop.read, collectText]
    exact congrArg (fun t => (Loop.text close t, [])) (List.append_nil t)

theorem Loop.rank_le (loop : Loop) : loop.rank ≤ 1 := by
  cases loop <;> simp [rank]

theorem turnAt?_of_lt (source : Text) {events : List Event} (loop : Loop) {i : Nat}
    (hlt : i < events.length) :
    turnAt? source events loop i = some (turn source loop events[i]) := by
  rw [turnAt?, List.getElem?_eq_getElem hlt, Option.map_some]

/-- Behind a call the index has moved on, and what the loop goes on with is left to read. -/
theorem lt_of_call {loop inner result : Loop} {i m : Nat} {moves : Bool} {resume : Loop → Loop}
    (hlt : i < events.length) (hturn : turn source loop events[i] = .call moves inner resume)
    (hm : m ≤ events.length)
    (hread : inner.read source (events.drop (i + moves.toNat)) = (result, events.drop m)) :
    i < m ∧ loop.read source (events.drop i) = (resume result).read source (events.drop m) := by
  have hdrop : events.drop i = events[i] :: events.drop (i + 1) := List.drop_eq_getElem_cons hlt
  have hfollows := follows_turn source loop events[i] (events.drop (i + 1))
  rw [hturn] at hfollows
  cases hfollows with
  | call _ hinner hrest h =>
    rw [← hdrop, List.drop_drop] at hinner
    obtain ⟨rfl, rfl⟩ := Prod.mk.inj (hinner.symm.trans hread)
    rw [List.length_drop, List.length_drop] at hrest
    exact ⟨by omega, hdrop ▸ h⟩

/-- A loop returns, and then it has read what the collector reads and is where that one stops. -/
theorem exists_returns (source : Text) {events : List Event} (loop : Loop) {i : Nat}
    (hi : i ≤ events.length) :
    ∃ last j, i ≤ j ∧ j ≤ events.length ∧ Returns source events loop i last j
      ∧ loop.read source (events.drop i) = (last, events.drop j) := by
  -- The index moves on, or a loop of a lower rank is called.
  induction hn : 2 * (events.length - i) + loop.rank using Nat.strongRecOn generalizing loop i with
  | ind n ih =>
    by_cases hlt : i < events.length
    · have hdrop : events.drop i = events[i] :: events.drop (i + 1) := List.drop_eq_getElem_cons hlt
      have hturn := turnAt?_of_lt source loop hlt
      have hfollows := follows_turn source loop events[i] (events.drop (i + 1))
      generalize hkind : turn source loop events[i] = t at hturn hfollows
      cases hfollows with
      | @next later h =>
        have hrank := later.rank_le
        obtain ⟨last, j, hij, hj, hreturns, hread⟩ := ih _ (by omega) later hlt rfl
        exact ⟨last, j, Nat.le_of_succ_le hij, hj, .next hturn hreturns, hdrop ▸ h.trans hread⟩
      | close h => exact ⟨loop, i + 1, Nat.le_succ i, hlt, .close hturn, hdrop ▸ h⟩
      | stop h =>
        rw [← hdrop] at h
        exact ⟨loop, i, Nat.le_refl i, hi, .stop hturn, h⟩
      | @call moves inner result resume rest hrank _ _ _ =>
        have hk : i + moves.toNat ≤ events.length := by
          have hmoves := Bool.toNat_le moves
          omega
        have hless : 2 * (events.length - (i + moves.toNat)) + inner.rank < n := by
          have hinnerRank := inner.rank_le
          cases moves with
          | false =>
            have hlower := hrank rfl
            rw [Bool.toNat_false]
            omega
          | true =>
            rw [Bool.toNat_true]
            omega
        obtain ⟨result, m, -, hm, hinside, hreadInner⟩ := ih _ hless inner hk rfl
        obtain ⟨him, hresume⟩ := lt_of_call hlt hkind hm hreadInner
        have hrankLater := (resume result).rank_le
        obtain ⟨last, j, hmj, hj, hreturns, hread⟩ := ih _ (by omega) (resume result) hm rfl
        exact ⟨last, j, by omega, hj, .call hturn hinside hreturns, hresume.trans hread⟩
    · obtain rfl : i = events.length := by omega
      have hnone : turnAt? source events loop events.length = none := by
        rw [turnAt?, List.getElem?_eq_none (Nat.le_refl _), Option.map_none]
      refine ⟨loop, _, Nat.le_refl _, Nat.le_refl _, .ended hnone, ?_⟩
      rw [List.drop_length, read_nil]

/-! ## Turns of the loop of the blocks -/

/-- What the loop of the blocks may do with an event: it returns behind its own end event, and
otherwise goes on. -/
inductive BlocksTurn (close : Option TagKind) (e : Event) : Turn → Prop where
  | close {kind : TagKind} (hclose : close = some kind) (he : e = .stop kind) :
      BlocksTurn close e .close
  | next (nodes : Warned (List Node)) : BlocksTurn close e (.next (.blocks close nodes))
  | call (moves : Bool) (inner : Loop) (resume : Loop → Warned (List Node)) :
      BlocksTurn close e (.call moves inner fun result => .blocks close (resume result))

theorem blocksTurn_form (close : Option TagKind) (nodes : Warned (List Node)) (e : Event) :
    BlocksTurn close e (blocksTurn close nodes e) := by
  by_cases he : e.startsInline = true
  · rw [blocksTurn_startsInline close nodes he]
    exact .call _ _ _
  cases e with
  | stop kind =>
    rw [blocksTurn]
    split
    next hclose => exact .close hclose rfl
    next => exact .next nodes
  | start tag span =>
    cases tag with
    | heading _ _ => exact .call _ _ _
    | paragraph => exact .call _ _ _
    | codeBlock _ => exact .call _ _ _
    | list _ => exact .call _ _ _
    | blockquote => exact .call _ _ _
    | table _ => exact .call _ _ _
    | htmlBlock => exact .call _ _ _
    | emphasis | strong | strikethrough | link | image => exact absurd rfl he
    | _ => exact .next nodes
  | html _ => exact .next _
  | rule => exact .next _
  | inlineMath | displayMath | footnoteReference | taskMarker => exact .next nodes
  | _ => exact absurd rfl he

theorem blocksTurn_of_turnAt? {close : Option TagKind} {nodes : Warned (List Node)} {i : Nat}
    {t : Turn} (h : turnAt? source events (.blocks close nodes) i = some t) :
    ∃ e, events[i]? = some e ∧ BlocksTurn close e t := by
  obtain ⟨e, he, rfl⟩ := Option.map_eq_some_iff.mp h
  exact ⟨e, he, blocksTurn_form close nodes e⟩

/-- The outermost loop returns at the end of the stream alone. -/
theorem Returns.length_le {last : Loop} {nodes : Warned (List Node)} {i j : Nat}
    (h : Returns source events (.blocks none nodes) i last j) : events.length ≤ j := by
  generalize hloop : Loop.blocks none nodes = loop at h
  induction h generalizing nodes with
  | ended h => exact List.getElem?_eq_none_iff.mp (Option.map_eq_none_iff.mp h)
  | close h =>
    subst hloop
    obtain ⟨e, -, hform⟩ := blocksTurn_of_turnAt? h
    cases hform
    contradiction
  | stop h =>
    subst hloop
    obtain ⟨e, -, hform⟩ := blocksTurn_of_turnAt? h
    cases hform
  | next h _ ih =>
    subst hloop
    obtain ⟨e, -, hform⟩ := blocksTurn_of_turnAt? h
    cases hform
    exact ih rfl
  | call h _ _ _ ih =>
    subst hloop
    obtain ⟨e, -, hform⟩ := blocksTurn_of_turnAt? h
    cases hform
    exact ih rfl

/-- A turn of the loop of the blocks moves the index on, whatever it is at. -/
theorem exists_turned (source : Text) {events : List Event} (close : Option TagKind)
    (nodes : Warned (List Node)) {i : Nat} (hlt : i < events.length) :
    (∃ kind, close = some kind ∧ events[i]? = some (.stop kind)
        ∧ Returns source events (.blocks close nodes) i (.blocks close nodes) (i + 1))
      ∨ ∃ nodes' j, i < j ∧ j ≤ events.length
        ∧ Turned source events (.blocks close nodes) i (.blocks close nodes') j := by
  have hturn := turnAt?_of_lt source (.blocks close nodes) hlt
  have hform : BlocksTurn close events[i] (turn source (.blocks close nodes) events[i]) :=
    blocksTurn_form close nodes events[i]
  generalize hkind : turn source (.blocks close nodes) events[i] = t at hturn hform
  cases hform with
  | @close kind hclose he =>
    have hevent : events[i]? = some (.stop kind) := by rw [List.getElem?_eq_getElem hlt, he]
    exact .inl ⟨kind, hclose, hevent, .close hturn⟩
  | next nodes' => exact .inr ⟨nodes', i + 1, Nat.lt_succ_self i, hlt, .next hturn⟩
  | call moves inner resume =>
    have hk : i + moves.toNat ≤ events.length := by
      have hmoves := Bool.toNat_le moves
      omega
    obtain ⟨result, m, -, hm, hinside, hread⟩ := exists_returns source inner hk
    obtain ⟨him, -⟩ := lt_of_call hlt hkind hm hread
    exact .inr ⟨resume result, m, him, hm, .call hturn hinside⟩

/-- How the collectors get on in an event stream. -/
structure Progress (source : Text) (events : List Event) : Prop where
  /-- A loop that is started in the stream returns, in one way: it moves the index no further than
  to the end, has read what the collector reads, and leaves what that one leaves. -/
  returns : ∀ loop i, i ≤ events.length → ∃ last j, i ≤ j ∧ j ≤ events.length
    ∧ loop.read source (events.drop i) = (last, events.drop j)
    ∧ ∀ last' j', Returns source events loop i last' j' ↔ last' = last ∧ j' = j
  /-- At each event the loop of the blocks returns behind it, if it is the end event of its own, and
  otherwise makes one turn, which moves the index on. -/
  advances : ∀ close nodes i, i < events.length →
    (∃ kind, close = some kind ∧ events[i]? = some (.stop kind)
        ∧ Returns source events (.blocks close nodes) i (.blocks close nodes) (i + 1))
      ∨ ∃ nodes' j, i < j ∧ j ≤ events.length ∧ ∀ later j',
        Turned source events (.blocks close nodes) i later j'
          ↔ later = .blocks close nodes' ∧ j' = j
  /-- The outermost loop reads the whole stream. -/
  whole : ∀ nodes i last j, i ≤ events.length →
    Returns source events (.blocks none nodes) i last j → j = events.length

/-- The collectors come to an end in every event stream. -/
theorem collectors_progress (source : Text) (events : List Event) : Progress source events where
  returns loop i hi := by
    obtain ⟨last, j, hij, hj, hreturns, hread⟩ := exists_returns source loop hi
    refine ⟨last, j, hij, hj, hread, fun last' j' => ⟨fun h => h.unique hreturns, ?_⟩⟩
    rintro ⟨rfl, rfl⟩
    exact hreturns
  advances close nodes i hlt := by
    refine (exists_turned source close nodes hlt).imp_right ?_
    rintro ⟨nodes', j, hij, hj, hturned⟩
    refine ⟨nodes', j, hij, hj, fun later j' => ⟨fun h => h.unique hturned, ?_⟩⟩
    rintro ⟨rfl, rfl⟩
    exact hturned
  whole nodes i last j hi h := by
    obtain ⟨last', j', -, hj, hreturns, -⟩ := exists_returns source (.blocks none nodes) hi
    obtain ⟨-, rfl⟩ := h.unique hreturns
    exact Nat.le_antisymm hj h.length_le

end Weave.Markdown
