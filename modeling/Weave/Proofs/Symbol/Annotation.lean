import Weave.Proofs.Symbol.DecorationOrder
import Weave.Proofs.Symbol.Occurrence

/-!
# What an annotation holds

`IsCandidate` names the decorations of some code without a search: a record where its bare name
stands by itself, and a parameter where its name stands by itself in the text of its owner.
`annotate_candidates` says that `annotate` lists exactly the candidates, in order and each once.

* `mem_decorations` is the account of one record.  The offsets of a parameter are counted in the
  text of the owner and shifted to where that text begins.
* `annotate` drops repeats among neighbours only.  That none is left is owed to the order in which
  the decorations are made, record by record, and to the names of an index being distinct: between
  two equal decorations only those of the same record are made (`source_eq_of_sublist`), and within
  a record the order tells all decorations apart (`eq_of_mem_decorations`).
-/

namespace Weave

open List

/-! ## The candidates -/

/-- In some code the definition of a record fills the span: the one of its qualified name or, where
there is none and the record has a parent, the one of its bare name. -/
def SymbolRecord.DefinedAt (r : SymbolRecord) (code : Text) (owner : Span) : Prop :=
  locateSymbol? code r.qualifiedName = some owner
    ∨ locateSymbol? code r.qualifiedName = none ∧ r.parent.isSome = true
      ∧ locateSymbol? code r.name = some owner

/-- The span of a text holds `body`. -/
def Span.Holds (span : Span) (text body : Text) : Prop :=
  ∃ before after, text = before ++ body ++ after ∧ before.byteLength = span.start
    ∧ (before ++ body).byteLength = span.stop

/-- The decorations that the symbols of an index have in some code. -/
inductive IsCandidate (code : Text) (index : SymbolIndex) : Decoration → Prop where
  /-- A record where its bare name stands by itself. -/
  | symbol {r : SymbolRecord} {span : Span} (hr : r ∈ index.records)
      (hname : StandsAlone code r.name span) :
      IsCandidate code index
        { span
          kind := .ofSymbol r.kind
          symbol := r.qualifiedName
          name := r.name
          parent := r.parent
          parentChain := r.parent.toList ++ [r.qualifiedName]
          cssClass := "symbol-" ++ (DecorationKind.ofSymbol r.kind).name }
  /-- A parameter where its name stands by itself inside the definition of its owner. -/
  | parameter {r : SymbolRecord} {p : Parameter} {owner span : Span} {body : Text}
      (hr : r ∈ index.records) (hp : p ∈ r.parameters) (howner : r.DefinedAt code owner)
      (hbody : owner.Holds code body) (hname : StandsAlone body p.name span) :
      IsCandidate code index
        { span := span.shift owner.start
          kind := .parameter
          symbol := p.name
          name := p.name
          parent := some r.qualifiedName
          parentChain := r.parent.toList ++ [r.qualifiedName, p.name]
          cssClass := "symbol-parameter" }

/-! ## One record -/

theorem Span.slice?_eq_some_iff {span : Span} {text body : Text} :
    span.slice? text = some body ↔ span.Holds text body :=
  Text.slice?_eq_some_iff

namespace SymbolRecord

theorem ownerSpan?_eq_some_iff {r : SymbolRecord} {code : Text} {owner : Span} :
    r.ownerSpan? code = some owner ↔ r.DefinedAt code owner := by
  unfold ownerSpan? DefinedAt
  cases hqualified : locateSymbol? code r.qualifiedName with
  | some span => simp
  | none =>
      cases hparent : r.parent with
      | none => simp
      | some parent => simp

/-- The decorations of the parameters of a record. -/
theorem mem_parameterDecorations {r : SymbolRecord} {code : Text} {d : Decoration} :
    d ∈ r.parameterDecorations code
      ↔ ∃ p ∈ r.parameters, ∃ owner body span, r.DefinedAt code owner ∧ owner.Holds code body
          ∧ StandsAlone body p.name span ∧ d = r.parameterAt p (span.shift owner.start) := by
  constructor
  · intro h
    unfold parameterDecorations at h
    split at h
    · contradiction
    · split at h
      · contradiction
      · rename_i owner howner
        split at h
        · contradiction
        · rename_i body hbody
          rw [List.mem_flatMap] at h
          obtain ⟨p, hp, hd⟩ := h
          rw [List.mem_map] at hd
          obtain ⟨span, hspan, rfl⟩ := hd
          exact ⟨p, hp, owner, body, span, ownerSpan?_eq_some_iff.mp howner,
            Span.slice?_eq_some_iff.mp hbody, mem_identifierSpans.mp hspan, rfl⟩
  · rintro ⟨p, hp, owner, body, span, howner, hbody, hname, rfl⟩
    have hparameters : r.parameters.isEmpty = false := by
      rw [List.isEmpty_eq_false_iff]
      exact List.ne_nil_of_mem hp
    unfold parameterDecorations
    rw [hparameters, ownerSpan?_eq_some_iff.mpr howner]
    dsimp only
    rw [Span.slice?_eq_some_iff.mpr hbody]
    simp only [Bool.false_eq_true, if_false, List.mem_flatMap, List.mem_map]
    exact ⟨p, hp, span, mem_identifierSpans.mpr hname, rfl⟩

/-- The decorations of a record: those of its name and those of its parameters. -/
theorem mem_decorations {r : SymbolRecord} {code : Text} {d : Decoration} :
    d ∈ r.decorations code
      ↔ (∃ span, StandsAlone code r.name span ∧ d = r.decorationAt span)
        ∨ ∃ p ∈ r.parameters, ∃ owner body span, r.DefinedAt code owner ∧ owner.Holds code body
            ∧ StandsAlone body p.name span ∧ d = r.parameterAt p (span.shift owner.start) := by
  unfold decorations
  rw [List.mem_append, mem_parameterDecorations, List.mem_map]
  refine or_congr_left ?_
  constructor
  · rintro ⟨span, hspan, rfl⟩
    exact ⟨span, mem_identifierSpans.mp hspan, rfl⟩
  · rintro ⟨span, hname, rfl⟩
    exact ⟨span, mem_identifierSpans.mpr hname, rfl⟩

/-- A decoration is one of a record's name or one of a parameter's. -/
theorem eq_decorationAt_or_parameterAt {r : SymbolRecord} {code : Text} {d : Decoration}
    (h : d ∈ r.decorations code) :
    d = r.decorationAt d.span ∨ ∃ p, d = r.parameterAt p d.span := by
  rcases mem_decorations.mp h with ⟨span, _, rfl⟩ | ⟨p, _, owner, _, span, _, _, _, rfl⟩
  · exact .inl rfl
  · exact .inr ⟨p, rfl⟩

end SymbolRecord

/-- The qualified name of the record that a decoration was made for. -/
def Decoration.source (d : Decoration) : Option Text :=
  match d.kind with
  | .parameter => d.parent
  | _ => some d.symbol

namespace SymbolRecord

theorem source_of_mem_decorations {r : SymbolRecord} {code : Text} {d : Decoration}
    (h : d ∈ r.decorations code) : d.source = some r.qualifiedName := by
  rcases eq_decorationAt_or_parameterAt h with hd | ⟨p, hd⟩
  · rw [hd]
    unfold Decoration.source decorationAt
    cases r.kind <;> rfl
  · rw [hd]
    rfl

/-- Within a record, a decoration is known by its span, its kind and its symbol. -/
theorem eq_of_mem_decorations {r : SymbolRecord} {code : Text} {a b : Decoration}
    (ha : a ∈ r.decorations code) (hb : b ∈ r.decorations code) (hspan : a.span = b.span)
    (hkind : a.kind = b.kind) (hsymbol : a.symbol = b.symbol) : a = b := by
  have hne : DecorationKind.ofSymbol r.kind ≠ .parameter := by
    cases r.kind <;> decide
  rcases eq_decorationAt_or_parameterAt ha with ha | ⟨p, ha⟩
  · rcases eq_decorationAt_or_parameterAt hb with hb | ⟨q, hb⟩
    · rw [ha, hb, hspan]
    · rw [ha, hb] at hkind
      exact absurd hkind hne
  · rcases eq_decorationAt_or_parameterAt hb with hb | ⟨q, hb⟩
    · rw [ha, hb] at hkind
      exact absurd hkind.symm hne
    · have hname : p.name = q.name := by
        rw [ha, hb] at hsymbol
        exact hsymbol
      rw [ha, hb, hspan]
      unfold parameterAt
      rw [hname]

end SymbolRecord

/-! ## All records -/

/-- A triple of a joined list lies in one of its halves, or its ends lie in different ones. -/
theorem triple_sublist_append {α : Type} {a b : α} {xs ys : List α} (h : [a, b, a] <+ xs ++ ys) :
    [a, b, a] <+ xs ∨ [a, b, a] <+ ys ∨ a ∈ xs ∧ a ∈ ys := by
  rw [List.sublist_append_iff] at h
  obtain ⟨here, later, hsplit, hhere, hlater⟩ := h
  cases here with
  | nil =>
      rw [List.nil_append] at hsplit
      exact .inr (.inl (hsplit ▸ hlater))
  | cons first here =>
      rw [List.cons_append, List.cons.injEq] at hsplit
      obtain ⟨rfl, hsplit⟩ := hsplit
      by_cases hempty : later = []
      · rw [hempty, List.append_nil] at hsplit
        exact .inl (hsplit ▸ hhere)
      · have hlast : a = later.getLast hempty := by
          have hends := congrArg List.getLast? hsplit
          rw [List.getLast?_append, List.getLast?_eq_some_getLast hempty, Option.some_or] at hends
          exact Option.some.inj hends
        have ha : a ∈ later := hlast ▸ List.getLast_mem hempty
        exact .inr (.inr ⟨hhere.subset List.mem_cons_self, hlater.subset ha⟩)

/-- Between two decorations of one record, only decorations of that record were made. -/
theorem source_eq_of_sublist {code : Text} {records : List SymbolRecord}
    (hdistinct : (records.map (·.qualifiedName)).Nodup) {a b : Decoration}
    (h : [a, b, a] <+ records.flatMap (·.decorations code)) : b.source = a.source := by
  induction records with
  | nil =>
      rw [List.flatMap_nil, List.sublist_nil] at h
      contradiction
  | cons r records ih =>
      rw [List.map_cons, List.nodup_cons] at hdistinct
      rw [List.flatMap_cons] at h
      rcases triple_sublist_append h with hhere | hlater | ⟨hhere, hlater⟩
      · have ha := SymbolRecord.source_of_mem_decorations (hhere.subset (a := a) (by simp))
        have hb := SymbolRecord.source_of_mem_decorations (hhere.subset (a := b) (by simp))
        rw [ha, hb]
      · exact ih hdistinct.2 hlater
      · -- The ends would be of two records with one name.
        obtain ⟨r', hr', ha'⟩ := List.mem_flatMap.mp hlater
        have ha := SymbolRecord.source_of_mem_decorations hhere
        rw [SymbolRecord.source_of_mem_decorations ha', Option.some.injEq] at ha
        exact absurd (List.mem_map.mpr ⟨r', hr', ha⟩) hdistinct.1

/-- Before the sort, only equal decorations stand between two equal ones that they tie with. -/
theorem eq_of_sublist_of_tie {code : Text} {index : SymbolIndex} {a b : Decoration}
    (h : [a, b, a] <+ index.records.flatMap (·.decorations code)) (hab : a.Precedes b)
    (hba : b.Precedes a) : b = a := by
  have hsource := source_eq_of_sublist index.distinct h
  obtain ⟨r, hr, ha⟩ := List.mem_flatMap.mp (h.subset (a := a) (by simp))
  obtain ⟨r', hr', hb⟩ := List.mem_flatMap.mp (h.subset (a := b) (by simp))
  rw [SymbolRecord.source_of_mem_decorations ha, SymbolRecord.source_of_mem_decorations hb,
    Option.some.injEq] at hsource
  have hrecord : r' = r := index.eq_of_qualifiedName_eq hr' hr hsource
  obtain ⟨hspan, hkind, hsymbol⟩ := hba.tie hab
  exact SymbolRecord.eq_of_mem_decorations (hrecord ▸ hb) ha hspan hkind hsymbol

/-- The sorted decorations are unbroken. -/
theorem unbroken_mergeSort_decorations (code : Text) (index : SymbolIndex) :
    Unbroken ((index.records.flatMap (·.decorations code)).mergeSort Decoration.le) := by
  intro a b h
  have hsorted := List.pairwise_mergeSort Decoration.le_trans Decoration.le_total
    (index.records.flatMap (·.decorations code))
  have htriple := hsorted.sublist h
  simp only [List.pairwise_cons, List.mem_cons, forall_eq_or_imp] at htriple
  have hab := htriple.1.1
  have hba := htriple.2.1.1
  have haa := htriple.1.2.1
  have hbefore : [a, b, a] <+ index.records.flatMap (·.decorations code) := by
    refine sublist_of_sublist_mergeSort Decoration.le_trans Decoration.le_total (a := a) h ?_
    intro x hx
    simp only [List.mem_cons, List.not_mem_nil, or_false] at hx
    rcases hx with rfl | rfl | rfl
    · exact ⟨haa, haa⟩
    · exact ⟨hab, hba⟩
    · exact ⟨haa, haa⟩
  exact eq_of_sublist_of_tie hbefore (Decoration.le_iff_precedes.mp hab)
    (Decoration.le_iff_precedes.mp hba)

theorem mem_annotate {code : Text} {index : SymbolIndex} {d : Decoration} :
    d ∈ annotate code index ↔ ∃ r ∈ index.records, d ∈ r.decorations code := by
  unfold annotate
  rw [mem_dropRepeats, List.mem_mergeSort, List.mem_flatMap]

/-- The annotation of some code holds exactly the candidates, in order and without repetition. -/
theorem annotate_candidates (code : Text) (index : SymbolIndex) :
    (∀ d, d ∈ annotate code index ↔ IsCandidate code index d)
      ∧ (annotate code index).Pairwise Decoration.Precedes
      ∧ (annotate code index).Nodup := by
  refine ⟨?_, ?_, ?_⟩
  · intro d
    rw [mem_annotate]
    constructor
    · rintro ⟨r, hr, hd⟩
      rcases SymbolRecord.mem_decorations.mp hd with
        ⟨span, hname, rfl⟩ | ⟨p, hp, owner, body, span, howner, hbody, hname, rfl⟩
      · exact .symbol hr hname
      · have h := IsCandidate.parameter hr hp howner hbody hname
        unfold SymbolRecord.parameterAt SymbolRecord.chain
        rw [List.append_assoc]
        exact h
    · intro h
      cases h with
      | symbol hr hname => exact ⟨_, hr, SymbolRecord.mem_decorations.mpr (.inl ⟨_, hname, rfl⟩)⟩
      | @parameter r p owner span body hr hp howner hbody hname =>
          refine ⟨r, hr, SymbolRecord.mem_decorations.mpr (.inr ?_)⟩
          refine ⟨p, hp, owner, body, span, howner, hbody, hname, ?_⟩
          unfold SymbolRecord.parameterAt SymbolRecord.chain
          rw [List.append_assoc]
          rfl
  · have hsorted := List.pairwise_mergeSort Decoration.le_trans Decoration.le_total
      (index.records.flatMap (·.decorations code))
    refine (hsorted.sublist (dropRepeats_sublist _)).imp ?_
    intro a b hab
    exact Decoration.le_iff_precedes.mp hab
  · exact nodup_dropRepeats (unbroken_mergeSort_decorations code index)

end Weave
