import Weave.Symbol.Index

/-!
# Registration in an index

An index is built by calls that register a single record or all definitions of a file.  Whatever the
calls are, they come down to one sequence of records that are to be registered (`attemptsOf`), and
`Built` says what the index holds of such a sequence.

* `Built.insert` is the step: what registering one more record does to the index.
* `built_run` is the run, for any sequence of calls.
* `find?_firstOfName` reads the answers of look-ups off the sequence.
-/

namespace Weave

/-- A call on an index that is being built. -/
inductive Registration where
  | insert (record : SymbolRecord)
  | addSource (file source : Text)

namespace Registration

/-- The index after a call. -/
def apply (index : SymbolIndex) : Registration → SymbolIndex
  | .insert record => (index.register record).1
  | .addSource file source => index.addSource file source

/-- The records that a call is to register, in order. -/
def attempts : Registration → List SymbolRecord
  | .insert record => [record]
  | .addSource file source => SymbolIndex.fileRecords file source

end Registration

/-- The records that a sequence of calls is to register, in order. -/
def attemptsOf (calls : List Registration) : List SymbolRecord :=
  calls.flatMap Registration.attempts

/-- The first record of each name, in order. -/
def firstOfName : List SymbolRecord → List SymbolRecord
  | [] => []
  | r :: rs => r :: (firstOfName rs).filter (·.qualifiedName ≠ r.qualifiedName)

/-! ## The first record of each name -/

/-- The first of some records with a name is the first of all of them. -/
theorem find?_firstOfName (rs : List SymbolRecord) (q : Text) :
    (firstOfName rs).find? (·.qualifiedName == q) = rs.find? (·.qualifiedName == q) := by
  induction rs with
  | nil => rfl
  | cons r rs ih =>
      rw [firstOfName, List.find?_cons, List.find?_cons]
      cases hr : r.qualifiedName == q with
      | true => rfl
      | false =>
          have hne : r.qualifiedName ≠ q := by simpa using hr
          -- A record of the name is not among those that the first one keeps out.
          have hkept : (fun s : SymbolRecord =>
              decide (decide (s.qualifiedName ≠ r.qualifiedName) = true
                ∧ (s.qualifiedName == q) = true))
                = fun s => s.qualifiedName == q := by
            funext s
            by_cases hs : s.qualifiedName = q
            · simp [hs, Ne.symm hne]
            · simp [hs]
          rw [List.find?_filter, hkept]
          exact ih

/-- A record that comes last is the first of its name if no other one has the name. -/
theorem firstOfName_append_singleton (rs : List SymbolRecord) (record : SymbolRecord) :
    firstOfName (rs ++ [record])
      = if ∃ r ∈ rs, r.qualifiedName = record.qualifiedName then firstOfName rs
        else firstOfName rs ++ [record] := by
  induction rs with
  | nil => simp [firstOfName]
  | cons r rs ih =>
      rw [List.cons_append, firstOfName, ih, firstOfName]
      by_cases hlater : ∃ s ∈ rs, s.qualifiedName = record.qualifiedName
      · have hany : ∃ s ∈ r :: rs, s.qualifiedName = record.qualifiedName :=
          hlater.imp fun s hs => ⟨List.mem_cons_of_mem r hs.1, hs.2⟩
        rw [if_pos hlater, if_pos hany]
      · rw [if_neg hlater, List.filter_append]
        by_cases hr : r.qualifiedName = record.qualifiedName
        · have hany : ∃ s ∈ r :: rs, s.qualifiedName = record.qualifiedName :=
            ⟨r, List.mem_cons_self, hr⟩
          rw [if_pos hany]
          simp [hr]
        · have hnone : ¬∃ s ∈ r :: rs, s.qualifiedName = record.qualifiedName := by
            rintro ⟨s, hs, hname⟩
            rcases List.mem_cons.mp hs with rfl | hs
            · exact hr hname
            · exact hlater ⟨s, hs, hname⟩
          rw [if_neg hnone]
          simp [Ne.symm hr]

theorem mem_map_firstOfName {rs : List SymbolRecord} {q : Text} :
    q ∈ (firstOfName rs).map (·.qualifiedName) ↔ ∃ r ∈ rs, r.qualifiedName = q := by
  have hfound : (firstOfName rs).find? (·.qualifiedName == q) ≠ none
      ↔ rs.find? (·.qualifiedName == q) ≠ none := by
    rw [find?_firstOfName]
  simpa [List.find?_eq_none] using hfound

/-! ## The index of a sequence of records -/

/-- An index holds the first record of each name of a sequence, and counts the others. -/
structure Built (index : SymbolIndex) (attempted : List SymbolRecord) : Prop where
  records_eq : index.records = firstOfName attempted
  total : index.size + index.duplicates = attempted.length

namespace Built

variable {index : SymbolIndex} {attempted : List SymbolRecord}

theorem empty : Built SymbolIndex.empty [] := ⟨rfl, rfl⟩

theorem get?_eq (h : Built index attempted) (q : Text) :
    index.get? q = attempted.find? (·.qualifiedName == q) := by
  rw [SymbolIndex.get?_eq_find?, h.records_eq, find?_firstOfName]

theorem contains_iff (h : Built index attempted) (q : Text) :
    index.contains q = true ↔ ∃ r ∈ attempted, r.qualifiedName = q := by
  rw [SymbolIndex.contains_iff, h.records_eq, mem_map_firstOfName]

/-- Registering a record adds it, or counts it when its name is taken. -/
theorem insert (h : Built index attempted) (record : SymbolRecord) :
    Built (index.insert record) (attempted ++ [record]) := by
  have htaken := h.contains_iff record.qualifiedName
  have htotal := h.total
  rw [SymbolIndex.size] at htotal
  rcases index.register_cases record with ⟨hc, hregister⟩ | ⟨hc, -, hrecords, hduplicates⟩
  · rw [SymbolIndex.insert, hregister]
    constructor
    · rw [firstOfName_append_singleton, if_pos (htaken.mp hc)]
      exact h.records_eq
    · rw [SymbolIndex.size, List.length_append, List.length_singleton]
      dsimp only
      omega
  · constructor
    · have hfree : ¬∃ r ∈ attempted, r.qualifiedName = record.qualifiedName := fun hany =>
        Bool.false_ne_true (hc.symm.trans (htaken.mpr hany))
      rw [hrecords, firstOfName_append_singleton, if_neg hfree, h.records_eq]
    · rw [SymbolIndex.size, hrecords, hduplicates, List.length_append, List.length_append,
        List.length_singleton]
      omega

theorem foldl_insert (h : Built index attempted) (records : List SymbolRecord) :
    Built (records.foldl SymbolIndex.insert index) (attempted ++ records) := by
  induction records generalizing index attempted with
  | nil => simpa using h
  | cons record records ih => simpa using ih (h.insert record)

/-- What a call is to register is registered. -/
theorem apply (h : Built index attempted) (call : Registration) :
    Built (call.apply index) (attempted ++ call.attempts) := by
  cases call with
  | insert record => exact h.insert record
  | addSource file source => exact h.foldl_insert _

end Built

/-- Every index that calls build from the empty one. -/
theorem built_run (calls : List Registration) :
    Built (calls.foldl Registration.apply SymbolIndex.empty) (attemptsOf calls) := by
  have hrun : ∀ (index : SymbolIndex) (attempted : List SymbolRecord), Built index attempted →
      Built (calls.foldl Registration.apply index) (attempted ++ attemptsOf calls) := by
    induction calls with
    | nil =>
        intro index attempted h
        simpa [attemptsOf] using h
    | cons call calls ih =>
        intro index attempted h
        have hstep := ih _ _ (h.apply call)
        rw [List.append_assoc] at hstep
        simpa [attemptsOf] using hstep
  simpa using hrun _ _ Built.empty

/-- An index that is built by any calls from the empty one keeps the first record of each name, in
the order in which the names came up, and answers every look-up with it.  Each record that was to be
registered is held or counted, and one more is registered exactly if its name is new; if it is not,
nothing but the count changes. -/
theorem registered_first (calls : List Registration) :
    let index := calls.foldl Registration.apply SymbolIndex.empty
    let attempted := attemptsOf calls
    (index.records.map (·.qualifiedName)).Nodup
      ∧ index.records = firstOfName attempted
      ∧ (∀ q, index.get? q = attempted.find? (·.qualifiedName == q))
      ∧ (∀ q, index.contains q = true ↔ ∃ r ∈ attempted, r.qualifiedName = q)
      ∧ index.size + index.duplicates = attempted.length
      ∧ ∀ record,
        ((index.register record).2 = true ↔ ∀ r ∈ attempted, r.qualifiedName ≠ record.qualifiedName)
          ∧ ((index.register record).2 = false →
            (index.register record).1 = { index with duplicates := index.duplicates + 1 }) := by
  intro index attempted
  have h : Built index attempted := built_run calls
  refine ⟨index.distinct, h.records_eq, h.get?_eq, h.contains_iff, h.total, fun record => ?_⟩
  have htaken := h.contains_iff record.qualifiedName
  rcases index.register_cases record with ⟨hc, hregister⟩ | ⟨hc, hnew, -, -⟩
  · rw [hregister]
    refine ⟨?_, fun _ => rfl⟩
    simpa using htaken.mp hc
  · rw [hnew]
    refine ⟨?_, fun hfalse => by contradiction⟩
    rw [hc] at htaken
    simpa using htaken

end Weave
