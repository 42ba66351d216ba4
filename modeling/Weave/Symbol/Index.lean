import Std.Data.TreeMap
import Weave.Symbol.Corpus
import Weave.Symbol.Record

/-!
# Symbol index

The records of a corpus in the order of registration, with a map from each qualified name to the
position of its record.  The first record of a name stays; later ones are only counted.

A file registers its classes at column zero, each with the methods at the indentation of its body,
and then its functions at column zero.  Definitions nested deeper are not registered.
-/

namespace Weave

/-- The registered records, the positions by which look-ups find them, and the number of records
that came too late.  The map has the position of every record under its name, and no other entry. -/
structure SymbolIndex where
  records : List SymbolRecord
  byName : Std.TreeMap Text Nat
  duplicates : Nat
  consistent : ∀ name position, byName[name]? = some position
    ↔ ∃ record : SymbolRecord, records[position]? = some record ∧ record.qualifiedName = name

namespace SymbolIndex

/-- No record. -/
def empty : SymbolIndex := ⟨[], ∅, 0, by simp⟩

instance : Inhabited SymbolIndex := ⟨empty⟩

/-- The number of records. -/
def size (index : SymbolIndex) : Nat := index.records.length

/-- Whether there is no record. -/
def isEmpty (index : SymbolIndex) : Bool := index.records.isEmpty

/-- Whether a qualified name is taken. -/
def contains (index : SymbolIndex) (qualifiedName : Text) : Bool :=
  index.byName.contains qualifiedName

/-! ## Look-ups -/

theorem position_lt (index : SymbolIndex) {name : Text} {position : Nat}
    (h : index.byName[name]? = some position) : position < index.records.length := by
  obtain ⟨record, hrecord, -⟩ := (index.consistent name position).mp h
  exact (List.getElem?_eq_some_iff.mp hrecord).1

/-- The record of a qualified name: the one at the position of the name. -/
def get? (index : SymbolIndex) (qualifiedName : Text) : Option SymbolRecord :=
  match h : index.byName[qualifiedName]? with
  | none => none
  | some position => some (index.records.get ⟨position, index.position_lt h⟩)

/-- Two records of one name have one position. -/
theorem eq_of_getElem? (index : SymbolIndex) {i j : Nat} {r s : SymbolRecord}
    (hr : index.records[i]? = some r) (hs : index.records[j]? = some s)
    (h : r.qualifiedName = s.qualifiedName) : i = j := by
  have hi := (index.consistent s.qualifiedName i).mpr ⟨r, hr, h⟩
  have hj := (index.consistent s.qualifiedName j).mpr ⟨s, hs, rfl⟩
  rw [hi] at hj
  exact Option.some.inj hj

/-- A record is known by its qualified name. -/
theorem eq_of_qualifiedName_eq (index : SymbolIndex) {r s : SymbolRecord}
    (hr : r ∈ index.records) (hs : s ∈ index.records)
    (h : r.qualifiedName = s.qualifiedName) : r = s := by
  obtain ⟨i, hi⟩ := List.mem_iff_getElem?.mp hr
  obtain ⟨j, hj⟩ := List.mem_iff_getElem?.mp hs
  obtain rfl := index.eq_of_getElem? hi hj h
  rw [hi] at hj
  exact Option.some.inj hj

/-- No two records have one name. -/
theorem distinct (index : SymbolIndex) : (index.records.map (·.qualifiedName)).Nodup := by
  refine List.pairwise_map.mpr (List.pairwise_iff_getElem.mpr ?_)
  intro i j hi hj hij hname
  have heq := index.eq_of_getElem? (List.getElem?_eq_getElem hi) (List.getElem?_eq_getElem hj) hname
  omega

/-- A look-up finds the record that has the name. -/
theorem get?_eq_some_iff (index : SymbolIndex) {name : Text} {record : SymbolRecord} :
    index.get? name = some record ↔ record ∈ index.records ∧ record.qualifiedName = name := by
  unfold get?
  split
  · rename_i hnone
    refine ⟨fun h => by contradiction, fun ⟨hmem, hname⟩ => ?_⟩
    obtain ⟨position, hposition⟩ := List.mem_iff_getElem?.mp hmem
    rw [(index.consistent name position).mpr ⟨record, hposition, hname⟩] at hnone
    contradiction
  · rename_i position hposition
    obtain ⟨found, hfound, hname⟩ := (index.consistent name position).mp hposition
    obtain ⟨hlt, hget⟩ := List.getElem?_eq_some_iff.mp hfound
    rw [Option.some.injEq, List.get_eq_getElem, hget]
    constructor
    · rintro rfl
      exact ⟨List.mem_of_getElem? hfound, hname⟩
    · intro ⟨hmem, hrecord⟩
      exact index.eq_of_qualifiedName_eq (List.mem_of_getElem? hfound) hmem
        (hname.trans hrecord.symm)

/-- Look-ups through the map answer what a search through the records does. -/
theorem get?_eq_find? (index : SymbolIndex) (name : Text) :
    index.get? name = index.records.find? (·.qualifiedName == name) := by
  apply Option.ext
  intro record
  rw [get?_eq_some_iff]
  constructor
  · rintro ⟨hmem, rfl⟩
    cases hfind : index.records.find? (·.qualifiedName == record.qualifiedName) with
    | none => exact absurd (by simp) (List.find?_eq_none.mp hfind record hmem)
    | some found =>
        have hname : found.qualifiedName = record.qualifiedName := by
          simpa using List.find?_some hfind
        rw [index.eq_of_qualifiedName_eq (List.mem_of_find?_eq_some hfind) hmem hname]
  · intro hfind
    exact ⟨List.mem_of_find?_eq_some hfind, by simpa using List.find?_some hfind⟩

/-- A name is taken when a record has it. -/
theorem contains_iff (index : SymbolIndex) (qualifiedName : Text) :
    index.contains qualifiedName = true
      ↔ qualifiedName ∈ index.records.map (·.qualifiedName) := by
  rw [contains, Std.TreeMap.contains_eq_isSome_getElem?, Option.isSome_iff_exists, List.mem_map]
  constructor
  · rintro ⟨position, hposition⟩
    obtain ⟨record, hrecord, hname⟩ := (index.consistent _ _).mp hposition
    exact ⟨record, List.mem_of_getElem? hrecord, hname⟩
  · rintro ⟨record, hmem, hname⟩
    obtain ⟨position, hposition⟩ := List.mem_iff_getElem?.mp hmem
    exact ⟨position, (index.consistent _ _).mpr ⟨record, hposition, hname⟩⟩

/-! ## Registration -/

/-- A record with a free name goes behind the others, and the map has its position. -/
theorem consistent_append (index : SymbolIndex) {record : SymbolRecord}
    (h : index.byName[record.qualifiedName]? = none) (name : Text) (position : Nat) :
    (index.byName.insert record.qualifiedName index.records.length)[name]? = some position
      ↔ ∃ r : SymbolRecord, (index.records ++ [record])[position]? = some r
          ∧ r.qualifiedName = name := by
  simp only [Std.TreeMap.getElem?_insert, Std.LawfulEqCmp.compare_eq_iff_eq]
  have hold := index.consistent name position
  rcases Nat.lt_trichotomy position index.records.length with hlt | rfl | hgt
  · rw [List.getElem?_append_left hlt, ← hold]
    by_cases hname : record.qualifiedName = name
    · rw [if_pos hname, ← hname, h]
      simp only [Option.some.injEq, reduceCtorEq, iff_false]
      omega
    · rw [if_neg hname]
  · rw [List.getElem?_concat_length]
    by_cases hname : record.qualifiedName = name
    · simp [hname]
    · have hfree : index.byName[name]? ≠ some index.records.length := fun hposition =>
        Nat.lt_irrefl _ (index.position_lt hposition)
      simp [hname, hfree]
  · have hlength : (index.records ++ [record]).length ≤ position := by
      rw [List.length_append, List.length_singleton]
      exact hgt
    rw [List.getElem?_eq_none hlength]
    by_cases hname : record.qualifiedName = name
    · simp [hname, Nat.ne_of_lt hgt]
    · have hfree : index.byName[name]? ≠ some position := fun hposition =>
        Nat.lt_asymm hgt (index.position_lt hposition)
      simp [hname, hfree]

/-- Registers a record, unless its name is taken, and tells whether it was registered. -/
def register (index : SymbolIndex) (record : SymbolRecord) : SymbolIndex × Bool :=
  match h : index.byName[record.qualifiedName]? with
  | some _ => ({ index with duplicates := index.duplicates + 1 }, false)
  | none =>
    (⟨index.records ++ [record],
      index.byName.insert record.qualifiedName index.records.length, index.duplicates,
      index.consistent_append h⟩, true)

/-- Registers a record, unless its name is taken. -/
def insert (index : SymbolIndex) (record : SymbolRecord) : SymbolIndex := (index.register record).1

/-- All that registering a record can do: it is counted, or it goes behind the others. -/
theorem register_cases (index : SymbolIndex) (record : SymbolRecord) :
    (index.contains record.qualifiedName = true
        ∧ index.register record = ({ index with duplicates := index.duplicates + 1 }, false))
      ∨ (index.contains record.qualifiedName = false ∧ (index.register record).2 = true
        ∧ (index.insert record).records = index.records ++ [record]
        ∧ (index.insert record).duplicates = index.duplicates) := by
  unfold contains insert register
  rw [Std.TreeMap.contains_eq_isSome_getElem?]
  split
  · rename_i hposition
    exact .inl ⟨by rw [hposition]; rfl, rfl⟩
  · rename_i hnone
    exact .inr ⟨by rw [hnone]; rfl, rfl, rfl, rfl⟩

/-- The lines at column zero that define something of this kind, with the names. -/
def topLevel (table : LineTable) (kind : Keyword) : List (Nat × Text) :=
  table.all.toList.filterMap fun n =>
    match Definition.parse? (table.line n) with
    | some (keyword, name) => if keyword = kind then some (n, name) else none
    | none => none

/-- The lines of a class body at its indentation that define functions, with the names.  The
indentation of a body is that of its first line that is not blank. -/
def methodLines (table : LineTable) (body : LineRange) : List (Nat × Text) :=
  match body.toList.find? fun n => !(table.line n).isAllSpace with
  | none => []
  | some first =>
    body.toList.filterMap fun n =>
      if indentOf (table.line n) ≠ indentOf (table.line first) then none
      else
        match Definition.parse? (table.line n).trimStart with
        | some (.function, name) => some (n, name)
        | _ => none

/-- The records of a class: its own, and those of its methods. -/
def classRecords (table : LineTable) (file : Text) (n : Nat) (name : Text) :
    List SymbolRecord :=
  let block := blockAt table n table.all
  SymbolRecord.ofBlock table file block name .«class» none
    :: (methodLines table block.body).map fun (m, method) =>
      SymbolRecord.ofBlock table file (blockAt table m block.body) (name ++ "." ++ method)
        .method (some name)

/-- The record of a function at column zero. -/
def functionRecord (table : LineTable) (file : Text) (n : Nat) (name : Text) : SymbolRecord :=
  SymbolRecord.ofBlock table file (blockAt table n table.all) name .function none

/-- The records that a file registers, in order. -/
def fileRecords (file source : Text) : List SymbolRecord :=
  let table := LineTable.ofSource source
  (topLevel table .«class»).flatMap (fun (n, name) => classRecords table file n name)
    ++ (topLevel table .function).map fun (n, name) => functionRecord table file n name

/-- Registers the definitions of a file. -/
def addSource (index : SymbolIndex) (file source : Text) : SymbolIndex :=
  (fileRecords file source).foldl insert index

/-- The index of one file. -/
def ofSource (file source : Text) : SymbolIndex := empty.addSource file source

/-- The index of a corpus, its files in path order. -/
def ofCorpus (corpus : Corpus) : SymbolIndex :=
  corpus.files.foldl (fun index file => index.addSource file.path file.text) empty

end SymbolIndex

end Weave
