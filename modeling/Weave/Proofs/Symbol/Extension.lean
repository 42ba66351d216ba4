import Weave.Proofs.Symbol.Annotation
import Weave.Proofs.Symbol.DefinitionBlock

/-!
# Text behind the code

Text whose lines start neither a definition nor a decorator can be put behind some code without a
change to what is found in the code.

* A block that reaches to the last line goes on behind it, and all else stays where it is:
  `Block.widen` says how a block grows, and `locateBlock?_widen` that the searches find the same
  block, grown.
* `Grown` is what that means for the span that parameters are searched in: it starts where it did,
  and what it has gained stands behind the code.
* In the sorted list, the decorations behind the code come after those inside it
  (`annotate_append`).
-/

namespace Weave

/-! ## Lines below the last one -/

/-- A table goes on with lines that start nothing. -/
structure LineTable.Extends (table table' : LineTable) : Prop where
  size_le : table.size ≤ table'.size
  line_eq : ∀ n, n < table.size → table'.line n = table.line n
  startsBlock_eq : ∀ n, table.size ≤ n → startsBlock (table'.line n).trimStart = false

/-- The end of a range that is one of the table, in the table that goes on. -/
def LineTable.widen (table table' : LineTable) (stop : Nat) : Nat :=
  if stop = table.size then table'.size else stop

/-- A block in the table that goes on. -/
def Block.widen (table table' : LineTable) (b : Block) : Block :=
  { b with stop := table.widen table' b.stop }

/-- A search over more lines that finds nothing among the new ones. -/
theorem LineRange.find?_toList_eq_of_le {start stop stop' : Nat} {p p' : Nat → Bool}
    (hle : stop ≤ stop') (hsame : ∀ n, n < stop → p' n = p n)
    (hnone : ∀ n, stop ≤ n → n < stop' → p' n = false) :
    (LineRange.mk start stop').toList.find? p' = (LineRange.mk start stop).toList.find? p := by
  cases hfind : (LineRange.mk start stop).toList.find? p with
  | none =>
      rw [find?_toList_eq_none_iff] at hfind ⊢
      intro n hstart hstop
      by_cases hn : n < stop
      · rw [hsame n hn]
        exact hfind n hstart hn
      · exact hnone n (Nat.le_of_not_lt hn) hstop
  | some n =>
      rw [find?_toList_eq_some_iff] at hfind ⊢
      obtain ⟨hp, hstart, hstop, hbefore⟩ := hfind
      dsimp only at hstop
      refine ⟨(hsame n hstop).trans hp, hstart, Nat.lt_of_lt_of_le hstop hle, ?_⟩
      intro m hm hlt
      rw [hsame m (Nat.lt_trans hlt hstop)]
      exact hbefore m hm hlt

theorem defines_eq_false_of_startsBlock {line : Text} (h : startsBlock line.trimStart = false)
    (name : Text) (classesOnly : Bool) : defines name classesOnly line = false := by
  unfold startsBlock at h
  rw [Bool.or_eq_false_iff, Option.isSome_eq_false_iff, Option.isNone_iff_eq_none] at h
  unfold defines
  rw [h.2]

theorem firstDecorator_congr {table table' : LineTable} {n : Nat} (indent limit : Nat)
    (h : ∀ m, m < n → table'.line m = table.line m) :
    firstDecorator table' indent limit n = firstDecorator table indent limit n := by
  induction n with
  | zero => rfl
  | succ n ih =>
      unfold firstDecorator
      rw [h n (Nat.lt_succ_self n), ih fun m hm => h m (Nat.lt_succ_of_lt hm)]

namespace LineTable.Extends

variable {table table' : LineTable} (h : table.Extends table')
include h

theorem le_widen {stop : Nat} : stop ≤ table.widen table' stop := by
  have hsize := h.size_le
  unfold widen
  split <;> omega

/-- The lines that a range gains start nothing. -/
theorem startsBlock_of_lt_widen {stop n : Nat} (hstop : stop ≤ n)
    (hn : n < table.widen table' stop) : startsBlock (table'.line n).trimStart = false := by
  unfold widen at hn
  split at hn
  · rename_i hsize
    exact h.startsBlock_eq n (hsize ▸ hstop)
  · omega

theorem blockAt_widen {keyword start stop : Nat} (hkeyword : keyword < stop)
    (hstop : stop ≤ table.size) :
    blockAt table' keyword ⟨start, table.widen table' stop⟩
      = (blockAt table keyword ⟨start, stop⟩).widen table table' := by
  have hline : ∀ n, n < stop → table'.line n = table.line n :=
    fun n hn => h.line_eq n (Nat.lt_of_lt_of_le hn hstop)
  have hfirst := firstDecorator_congr (indentOf (table.line keyword)) start
    fun m hm => hline m (Nat.lt_trans hm hkeyword)
  have hfind : (LineRange.mk (keyword + 1) (table.widen table' stop)).toList.find?
        (fun n => endsBlock (indentOf (table.line keyword)) (table'.line n))
      = (LineRange.mk (keyword + 1) stop).toList.find?
        fun n => endsBlock (indentOf (table.line keyword)) (table.line n) := by
    refine LineRange.find?_toList_eq_of_le h.le_widen (fun n hn => by rw [hline n hn]) ?_
    intro n hn hlt
    rw [endsBlock_eq, h.startsBlock_of_lt_widen hn hlt]
    exact Bool.and_false _
  unfold blockAt Block.widen
  dsimp only
  rw [hline keyword hkeyword, hfirst, hfind]
  cases hend : (LineRange.mk (keyword + 1) stop).toList.find?
      fun n => endsBlock (indentOf (table.line keyword)) (table.line n) with
  | none => rfl
  | some n =>
      have hlt := (LineRange.find?_toList_eq_some_iff.mp hend).2.2.1
      have hne : n ≠ table.size := Nat.ne_of_lt (Nat.lt_of_lt_of_le hlt hstop)
      rw [Option.getD_some, Option.getD_some, LineTable.widen, if_neg hne]

theorem findBlock?_widen {start stop : Nat} (hstop : stop ≤ table.size) (name : Text)
    (classesOnly : Bool) :
    findBlock? table' ⟨start, table.widen table' stop⟩ name classesOnly
      = (findBlock? table ⟨start, stop⟩ name classesOnly).map (Block.widen table table') := by
  have hfind : (LineRange.mk start (table.widen table' stop)).toList.find?
        (fun n => defines name classesOnly (table'.line n))
      = (LineRange.mk start stop).toList.find?
        fun n => defines name classesOnly (table.line n) := by
    refine LineRange.find?_toList_eq_of_le h.le_widen (fun n hn => ?_) fun n hn hlt => ?_
    · rw [h.line_eq n (Nat.lt_of_lt_of_le hn hstop)]
    · exact defines_eq_false_of_startsBlock (h.startsBlock_of_lt_widen hn hlt) _ _
  unfold findBlock?
  rw [hfind]
  cases hkeyword : (LineRange.mk start stop).toList.find?
      fun n => defines name classesOnly (table.line n) with
  | none => rfl
  | some n =>
      have hlt := (LineRange.find?_toList_eq_some_iff.mp hkeyword).2.2.1
      rw [Option.map_some, Option.map_some, Option.map_some, h.blockAt_widen hlt hstop]

/-- The same block is found, and it has grown if it reached to the last line. -/
theorem locateBlock?_widen (q : Text) :
    locateBlock? table' q = (locateBlock? table q).map (Block.widen table table') := by
  have hall : table'.all = ⟨0, table.widen table' table.size⟩ := by
    rw [LineTable.widen, if_pos rfl]
    rfl
  unfold locateBlock?
  rw [hall]
  split
  · rename_i owner method _
    rw [h.findBlock?_widen (Nat.le_refl _)]
    cases houter : findBlock? table table.all owner true with
    | none =>
        unfold LineTable.all at houter
        rw [houter]
        rfl
    | some outer =>
        have hstop := (holdsDefinition_findBlock? houter (Nat.le_refl _)).1.stop_le
        unfold LineTable.all at houter
        rw [houter]
        exact h.findBlock?_widen hstop method false
  · exact h.findBlock?_widen (Nat.le_refl _) q false

end LineTable.Extends

/-! ## Text behind the last line -/

/-- The same definition in some code and in the code with text behind it. -/
structure Grown (code extra : Text) (owner owner' : Span) : Prop where
  start_eq : owner'.start = owner.start
  text : ∃ body tail, owner.Holds code body ∧ owner'.Holds (code ++ extra) (body ++ tail)
    ∧ (tail = [] ∨ owner.stop = code.byteLength)

section Append

variable {code extra : Text} (hcode : ∀ c ∈ code.getLast?, c = '\n')
  (hextra : ∀ line ∈ extra.chunks, startsBlock line.trimStart = false)
include hcode

theorem lines_ofSource_append (extra : Text) :
    (LineTable.ofSource (code ++ extra)).lines
      = (LineTable.ofSource code).lines ++ extra.chunks :=
  Text.chunks_append hcode extra

theorem offset_append (extra : Text) {n : Nat} (h : n ≤ (LineTable.ofSource code).size) :
    (LineTable.ofSource (code ++ extra)).offset n = (LineTable.ofSource code).offset n := by
  unfold LineTable.offset
  rw [lines_ofSource_append hcode extra, List.take_append_of_le_length h]

/-- Lines of the code are the same lines with text behind it. -/
theorem slice_append_of_le (extra : Text) {start stop : Nat}
    (h : stop ≤ (LineTable.ofSource code).size) :
    (LineTable.ofSource (code ++ extra)).slice start stop
      = (LineTable.ofSource code).slice start stop := by
  unfold LineTable.slice
  rw [lines_ofSource_append hcode extra, List.take_append_of_le_length h]

/-- The lines from one of the code on hold the rest of the code and the text behind it. -/
theorem flatten_slice_append (extra : Text) {start : Nat}
    (h : start ≤ (LineTable.ofSource code).size) :
    ((LineTable.ofSource (code ++ extra)).slice start
        (LineTable.ofSource (code ++ extra)).size).flatten
      = ((LineTable.ofSource code).slice start (LineTable.ofSource code).size).flatten
        ++ extra := by
  unfold LineTable.slice LineTable.size at *
  rw [List.take_length, List.take_length, lines_ofSource_append hcode extra,
    List.drop_append_of_le_length h, List.flatten_append, Text.flatten_chunks]

include hextra

theorem extends_append :
    (LineTable.ofSource code).Extends (LineTable.ofSource (code ++ extra)) := by
  have hlines := lines_ofSource_append hcode extra
  refine ⟨?_, fun n hn => ?_, fun n hn => ?_⟩
  · unfold LineTable.size
    rw [hlines, List.length_append]
    exact Nat.le_add_right _ _
  · unfold LineTable.line
    rw [hlines, List.getD_append _ _ _ _ hn]
  · unfold LineTable.line
    rw [hlines, List.getD_append_right _ _ _ _ hn]
    by_cases hlt : n - (LineTable.ofSource code).lines.length < extra.chunks.length
    · rw [List.getD_eq_getElem _ _ hlt]
      exact hextra _ (List.getElem_mem hlt)
    · rw [List.getD_eq_default _ _ (Nat.le_of_not_lt hlt)]
      rfl

omit hextra in
theorem grown_span {b : Block} (hle : b.first ≤ b.stop)
    (hstop : b.stop ≤ (LineTable.ofSource code).size) :
    Grown code extra ((LineTable.ofSource code).span b.lines)
      ((LineTable.ofSource (code ++ extra)).span
        (b.widen (.ofSource code) (.ofSource (code ++ extra))).lines) := by
  have hoffset := offset_append hcode extra (Nat.le_trans hle hstop)
  have hholds := Span.slice?_eq_some_iff.mp (LineTable.slice?_span code hle)
  unfold Block.widen LineTable.widen Block.lines
  dsimp only
  split
  · -- The block reaches to the end of the code, and so it does in the longer one.
    rename_i hsize
    rw [hsize] at hle hholds ⊢
    have hle' : b.first ≤ (LineTable.ofSource (code ++ extra)).size := by
      unfold LineTable.size at hle ⊢
      rw [lines_ofSource_append hcode, List.length_append]
      exact Nat.le_add_right_of_le hle
    have hholds' := Span.slice?_eq_some_iff.mp (LineTable.slice?_span (code ++ extra) hle')
    rw [flatten_slice_append hcode extra hle] at hholds'
    refine ⟨?_, _, extra, hholds, hholds', .inr ?_⟩
    · rw [LineTable.span_eq hle', LineTable.span_eq hle]
      exact hoffset
    · rw [LineTable.span_eq hle]
      exact LineTable.offset_size code
  · have hholds' := Span.slice?_eq_some_iff.mp (LineTable.slice?_span (code ++ extra) hle)
    rw [slice_append_of_le hcode extra hstop] at hholds'
    refine ⟨?_, _, [], hholds, ?_, .inl rfl⟩
    · rw [LineTable.span_eq hle, LineTable.span_eq hle]
      exact hoffset
    · rw [List.append_nil]
      exact hholds'

theorem locateSymbol?_append (q : Text) :
    Option.Rel (Grown code extra) (locateSymbol? code q) (locateSymbol? (code ++ extra) q) := by
  unfold locateSymbol?
  dsimp only
  rw [(extends_append hcode hextra).locateBlock?_widen q]
  cases hlocate : locateBlock? (.ofSource code) q with
  | none => exact .none
  | some b =>
      have hholds := holdsDefinition_locateBlock? hlocate
      have hle := Nat.le_of_lt (Nat.lt_of_le_of_lt hholds.first_le hholds.keyword_lt)
      exact .some (grown_span hcode hle hholds.stop_le)

/-- The definition of a record has grown at most at its end. -/
theorem ownerSpan?_append (r : SymbolRecord) :
    Option.Rel (Grown code extra) (r.ownerSpan? code) (r.ownerSpan? (code ++ extra)) := by
  have hqualified := locateSymbol?_append hcode hextra r.qualifiedName
  unfold SymbolRecord.ownerSpan?
  generalize locateSymbol? code r.qualifiedName = found at hqualified ⊢
  generalize locateSymbol? (code ++ extra) r.qualifiedName = found' at hqualified ⊢
  cases hqualified with
  | some hgrown => exact .some hgrown
  | none =>
      dsimp only
      split
      · exact locateSymbol?_append hcode hextra r.name
      · exact .none

/-! ## Decorations -/

omit hextra

/-- A name stands in the grown text where it stood before, or behind the code. -/
theorem identifierSpans_grown {owner : Span} {body tail name : Text} (hname : '\n' ∉ name)
    (hbody : owner.Holds code body) (htail : tail = [] ∨ owner.stop = code.byteLength) :
    ∃ later, identifierSpans (body ++ tail) name = identifierSpans body name ++ later
      ∧ ∀ span ∈ later, code.byteLength ≤ owner.start + span.start := by
  obtain ⟨before, after, hsplit, hstart, hend⟩ := hbody
  rcases htail with rfl | hstop
  · exact ⟨[], by simp, fun _ h => nomatch h⟩
  · have hlength := congrArg Text.byteLength hsplit
    have hafter : after = [] := by
      cases after with
      | nil => rfl
      | cons c after =>
          have hpos : 0 < Text.byteLength (c :: after) := Text.byteLength_pos
          rw [Text.byteLength_append] at hlength
          omega
    rw [hafter, List.append_nil] at hsplit
    have hlast : ∀ c ∈ body.getLast?, c = '\n' := by
      intro c hc
      refine hcode c ?_
      rw [hsplit, List.getLast?_append, hc]
      rfl
    obtain ⟨later, hspans, hlater⟩ := identifierSpans_append hname hlast tail
    refine ⟨later, hspans, fun span hspan => ?_⟩
    have hle := hlater span hspan
    rw [hsplit, Text.byteLength_append]
    omega

/-- A decoration starts inside some code. -/
def Decoration.startsIn (code : Text) (d : Decoration) : Bool := d.span.start < code.byteLength

omit hcode in
/-- Of the decorations that are made of spans, those inside the code are those of the first
spans. -/
theorem filter_startsIn_map {spans later : List Span} {f : Span → Decoration} {offset : Nat}
    (hf : ∀ span, (f span).span.start = offset + span.start)
    (hspans : ∀ span ∈ spans, offset + span.start < code.byteLength)
    (hlater : ∀ span ∈ later, code.byteLength ≤ offset + span.start) :
    ((spans ++ later).map f).filter (Decoration.startsIn code) = spans.map f := by
  have hin : (spans.map f).filter (Decoration.startsIn code) = spans.map f := by
    rw [List.filter_eq_self]
    intro d hd
    obtain ⟨span, hspan, rfl⟩ := List.mem_map.mp hd
    rw [Decoration.startsIn, hf, decide_eq_true_eq]
    exact hspans span hspan
  have hout : (later.map f).filter (Decoration.startsIn code) = [] := by
    rw [List.filter_eq_nil_iff]
    intro d hd
    obtain ⟨span, hspan, rfl⟩ := List.mem_map.mp hd
    rw [Decoration.startsIn, hf, decide_eq_true_eq, Nat.not_lt]
    exact hlater span hspan
  rw [List.map_append, List.filter_append, hin, hout, List.append_nil]

include hextra

theorem filter_parameterDecorations {r : SymbolRecord}
    (hnames : ∀ p ∈ r.parameters, '\n' ∉ p.name) :
    (r.parameterDecorations (code ++ extra)).filter (Decoration.startsIn code)
      = r.parameterDecorations code := by
  have howner := ownerSpan?_append hcode hextra r
  unfold SymbolRecord.parameterDecorations
  generalize r.ownerSpan? code = found at howner ⊢
  generalize r.ownerSpan? (code ++ extra) = found' at howner ⊢
  split
  · rfl
  · cases howner with
    | none => rfl
    | @some owner owner' hgrown =>
        obtain ⟨hstart, body, tail, hbody, hbody', htail⟩ := hgrown
        dsimp only
        rw [Span.slice?_eq_some_iff.mpr hbody, Span.slice?_eq_some_iff.mpr hbody', hstart]
        dsimp only
        rw [List.filter_flatMap]
        refine List.flatMap_congr fun p hp => ?_
        obtain ⟨later, hspans, hlater⟩ := identifierSpans_grown hcode (hnames p hp) hbody htail
        rw [hspans]
        refine filter_startsIn_map (fun span => rfl) (fun span hspan => ?_) hlater
        have hlt := start_lt_of_mem_identifierSpans hspan
        obtain ⟨before, after, rfl, hbefore, -⟩ := hbody
        simp only [Text.byteLength_append]
        omega

/-- A record has the decorations in the code that it has without the text behind it. -/
theorem filter_decorations {r : SymbolRecord} (hname : '\n' ∉ r.name)
    (hnames : ∀ p ∈ r.parameters, '\n' ∉ p.name) :
    (r.decorations (code ++ extra)).filter (Decoration.startsIn code) = r.decorations code := by
  obtain ⟨later, hspans, hlater⟩ := identifierSpans_append hname hcode extra
  have hin : ((identifierSpans (code ++ extra) r.name).map r.decorationAt).filter
        (Decoration.startsIn code) = (identifierSpans code r.name).map r.decorationAt := by
    rw [hspans]
    refine filter_startsIn_map (fun span => (Nat.zero_add _).symm) (fun span hspan => ?_)
      fun span hspan => ?_
    · rw [Nat.zero_add]
      exact start_lt_of_mem_identifierSpans hspan
    · rw [Nat.zero_add]
      exact hlater span hspan
  unfold SymbolRecord.decorations
  rw [List.filter_append, hin, filter_parameterDecorations hcode hextra hnames]

end Append

/-- In a sorted list the decorations inside the code stand in front of the others. -/
theorem filter_startsIn_append {l : List Decoration}
    (hl : l.Pairwise fun a b => Decoration.le a b = true) (code : Text) :
    l.filter (Decoration.startsIn code) ++ l.filter (!Decoration.startsIn code ·) = l := by
  induction l with
  | nil => rfl
  | cons d ds ih =>
      cases hd : Decoration.startsIn code d with
      | true => simp [hd, ih hl.of_cons]
      | false =>
          have hnone : ds.filter (Decoration.startsIn code) = [] := by
            rw [List.filter_eq_nil_iff]
            intro e he
            have hle := Decoration.le_iff_precedes.mp (List.rel_of_pairwise_cons hl he)
            simp only [Decoration.startsIn, decide_eq_false_iff_not, decide_eq_true_eq] at hd ⊢
            unfold Decoration.Precedes at hle
            omega
          have hrest := ih hl.of_cons
          rw [hnone, List.nil_append] at hrest
          simp [hd, hnone, hrest]

/-- Annotations are stable under text behind the code.  When no line of it starts a definition or a
decorator, and no name reaches over a line's end, the annotation goes on behind the code and stays
as it is inside. -/
theorem annotate_append {code extra : Text} {index : SymbolIndex}
    (hnames : ∀ r ∈ index.records, '\n' ∉ r.name ∧ ∀ p ∈ r.parameters, '\n' ∉ p.name)
    (hcode : ∀ c ∈ code.getLast?, c = '\n')
    (hextra : ∀ line ∈ extra.chunks, startsBlock line.trimStart = false) :
    ∃ later, annotate (code ++ extra) index = annotate code index ++ later
      ∧ ∀ d ∈ later, code.byteLength ≤ d.span.start := by
  have hsorted := List.pairwise_mergeSort Decoration.le_trans Decoration.le_total
    (index.records.flatMap (·.decorations (code ++ extra)))
  have hinside : (index.records.flatMap (·.decorations (code ++ extra))).filter
        (Decoration.startsIn code) = index.records.flatMap (·.decorations code) := by
    rw [List.filter_flatMap]
    exact List.flatMap_congr fun r hr =>
      filter_decorations hcode hextra (hnames r hr).1 (hnames r hr).2
  have hsplit := filter_startsIn_append hsorted code
  rw [filter_mergeSort Decoration.le_trans Decoration.le_total, hinside] at hsplit
  generalize hbehind : ((index.records.flatMap (·.decorations (code ++ extra))).mergeSort
    Decoration.le).filter (!Decoration.startsIn code ·) = behind at hsplit
  have hlater : ∀ d ∈ behind, code.byteLength ≤ d.span.start := by
    intro d hd
    rw [← hbehind, List.mem_filter] at hd
    simpa [Decoration.startsIn] using hd.2
  refine ⟨dropRepeats behind, ?_, fun d hd => hlater d (mem_dropRepeats.mp hd)⟩
  unfold annotate
  rw [← hsplit, dropRepeats_append]
  intro d hd hmem
  rw [List.mem_mergeSort, ← hinside, List.mem_filter] at hd
  have hlt : d.span.start < code.byteLength := of_decide_eq_true hd.2
  exact Nat.not_le_of_lt hlt (hlater d hmem)

/-- A function in front of a call of it. -/
theorem annotate_append_call :
    let code : Text := "def double(x):\n    return x + x\n"
    let call : Text := "print(double(2))\n"
    let index := SymbolIndex.ofSource "a.py" code
    ∃ later, annotate (code ++ call) index = annotate code index ++ later
      ∧ ∀ d ∈ later, code.byteLength ≤ d.span.start := by
  intro code call index
  have hnames : ∀ r ∈ index.records, '\n' ∉ r.name ∧ ∀ p ∈ r.parameters, '\n' ∉ p.name := by
    decide +kernel
  have hlast : code.getLast? = some '\n' := by decide +kernel
  have hcode : ∀ c ∈ code.getLast?, c = '\n' := fun c hc => by
    rw [hlast] at hc
    exact (Option.some.inj hc).symm
  have hcall : ∀ line ∈ call.chunks, startsBlock line.trimStart = false := by decide +kernel
  exact annotate_append hnames hcode hcall

end Weave
