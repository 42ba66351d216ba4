import Weave.Proofs.Code.Nesting

/-!
# Closed code

Code is closed when each string and each bracket that it opens is closed in it.  `Closed banned`
says besides that no character of `banned` stands outside brackets and strings, which is what it
takes to stand between separators (`separators`).

`Closed.along` is the one induction over closed code: a reader that comes to it with some brackets
open meets each of its characters in a string, or with as many brackets open or more.  That no
separator is found in it (`Closed.passes`), that a bracket around it stays open
(`Closed.staysOpen`), and that both readers of brackets agree on it (`Closed.quiet`) are its cases.
-/

namespace Weave

namespace Nesting

/-- A character that has no meaning to a reader of code. -/
abbrev IsPlain (c : Char) : Prop := ¬IsQuote c ∧ c ≠ '#' ∧ ¬IsOpening c ∧ ¬IsClosing c

/-- Code in a string. -/
def string (depth : Int) (quote : Char) : Nesting := ⟨depth, some quote, false, false⟩

variable {c q : Char} {depth : Int} {content : Text}

theorem step_code_plain (h : IsPlain c) : (code depth).step c = code depth := by
  rw [step_of_code rfl rfl, if_neg h.1, if_neg h.2.1, if_neg h.2.2.1, if_neg h.2.2.2]

theorem step_code_quote (h : IsQuote c) : (code depth).step c = string depth c := by
  rw [step_of_code rfl rfl, if_pos h]
  rfl

theorem step_code_opening (h : IsOpening c) : (code depth).step c = code (depth + 1) := by
  have hquote : ¬IsQuote c := by grind
  have hhash : c ≠ '#' := by grind
  rw [step_of_code rfl rfl, if_neg hquote, if_neg hhash, if_pos h]
  rfl

theorem step_code_closing (h : IsClosing c) : (code depth).step c = code (depth - 1) := by
  have hquote : ¬IsQuote c := by grind
  have hhash : c ≠ '#' := by grind
  have hopening : ¬IsOpening c := by grind
  rw [step_of_code rfl rfl, if_neg hquote, if_neg hhash, if_neg hopening, if_pos h]
  rfl

theorem step_string_quote : (string depth q).step q = code depth := by
  rw [step_of_quote rfl rfl, if_pos rfl]
  rfl

theorem step_string (hquote : c ≠ q) (hescape : c ≠ '\\') :
    (string depth q).step c = string depth q := by
  have hsame : (c == '\\') = false := beq_eq_false_iff_ne.mpr hescape
  rw [step_of_quote rfl rfl, if_neg hquote, hsame]
  rfl

theorem step_string_escape (h : '\\' ≠ q) :
    (string depth q).step '\\' = ⟨depth, some q, true, false⟩ := by
  rw [step_of_quote rfl rfl, if_neg h]
  rfl

theorem run_string (hquote : q ∉ content) (hescape : '\\' ∉ content) :
    (string depth q).run content = string depth q := by
  induction content with
  | nil => rfl
  | cons c content ih =>
      rw [List.mem_cons, not_or] at hquote hescape
      rw [run_cons, step_string (Ne.symm hquote.1) (Ne.symm hescape.1), ih hquote.2 hescape.2]

theorem along_string {P : Nesting → Char → Prop} (h : ∀ c, P (string depth q) c)
    (hquote : q ∉ content) (hescape : '\\' ∉ content) : (string depth q).Along P content := by
  induction content with
  | nil => trivial
  | cons c content ih =>
      rw [List.mem_cons, not_or] at hquote hescape
      refine ⟨h c, ?_⟩
      rw [step_string (Ne.symm hquote.1) (Ne.symm hescape.1)]
      exact ih hquote.2 hescape.2

end Nesting

open Nesting

/-- The characters at which the headers of functions are cut. -/
def separators : List Char := [',', '=', ':']

/-- A separator has no meaning to a reader of code. -/
theorem isPlain_of_mem_separators {c : Char} (h : c ∈ separators) : IsPlain c := by
  simp only [separators, List.mem_cons, List.not_mem_nil, or_false] at h
  rcases h with rfl | rfl | rfl <;> decide

/-- Code whose strings and brackets are closed in it, without the banned characters outside of
them. -/
inductive Closed : (banned : List Char) → Text → Prop where
  | nil {banned} : Closed banned []
  | plain {banned c t} (plain : IsPlain c) (free : c ∉ banned) (rest : Closed banned t) :
      Closed banned (c :: t)
  | quoted {banned q content t} (quote : IsQuote q) (free : q ∉ content) (escape : '\\' ∉ content)
      (rest : Closed banned t) : Closed banned (q :: (content ++ q :: t))
  | group {banned o c u t} (opening : IsOpening o) (closing : IsClosing c) (inner : Closed [] u)
      (rest : Closed banned t) : Closed banned (o :: (u ++ c :: t))

namespace Closed

variable {banned : List Char} {t u : Text}

theorem append (h : Closed banned t) (hu : Closed banned u) : Closed banned (t ++ u) := by
  induction h with
  | nil => exact hu
  | plain hplain hfree _ ih => exact .plain hplain hfree (ih hu)
  | quoted hquote hfree hescape _ ih =>
      rw [List.cons_append, List.append_assoc, List.cons_append]
      exact .quoted hquote hfree hescape (ih hu)
  | group hopening hclosing hinner _ _ ih =>
      rw [List.cons_append, List.append_assoc, List.cons_append]
      exact .group hopening hclosing hinner (ih hu)

theorem of_plain (h : ∀ c ∈ t, IsPlain c ∧ c ∉ banned) : Closed banned t := by
  induction t with
  | nil => exact .nil
  | cons c t ih =>
      obtain ⟨hplain, hfree⟩ := h c List.mem_cons_self
      exact .plain hplain hfree (ih fun d hd => h d (List.mem_cons_of_mem c hd))

/-- Fewer characters may be banned. -/
theorem mono {fewer : List Char} (h : Closed banned t) (hsub : fewer ⊆ banned) :
    Closed fewer t := by
  induction h with
  | nil => exact .nil
  | plain hplain hfree _ ih => exact .plain hplain (fun hc => hfree (hsub hc)) (ih hsub)
  | quoted hquote hfree hescape _ ih => exact .quoted hquote hfree hescape (ih hsub)
  | group hopening hclosing hinner _ _ ih => exact .group hopening hclosing hinner (ih hsub)

/-- Behind closed code the reader stands where it stood in front of it. -/
theorem run (h : Closed banned t) (depth : Int) : (code depth).run t = code depth := by
  induction h generalizing depth with
  | nil => rfl
  | plain hplain _ _ ih => rw [run_cons, step_code_plain hplain, ih]
  | quoted hquote hfree hescape _ ih =>
      rw [run_cons, step_code_quote hquote, run_append, run_string hfree hescape, run_cons,
        step_string_quote, ih]
  | group hopening hclosing _ _ ihInner ih =>
      rw [run_cons, step_code_opening hopening, run_append, ihInner, run_cons,
        step_code_closing hclosing, Int.add_sub_cancel, ih]

/-- The characters of closed code stand in strings, in further brackets, or are not banned. -/
theorem along {P : Nesting → Char → Prop} (h : Closed banned t) {depth : Int}
    (hbanned : banned ⊆ separators)
    (hcode : ∀ d c, depth ≤ d → (d = depth → c ∉ banned) → P (code d) c)
    (hstring : ∀ d q c, depth ≤ d → P (string d q) c) : (code depth).Along P t := by
  induction h generalizing depth with
  | nil => trivial
  | plain hplain hfree _ ih =>
      refine ⟨hcode depth _ (Int.le_refl _) fun _ => hfree, ?_⟩
      rw [step_code_plain hplain]
      exact ih hbanned hcode hstring
  | quoted hquote hfree hescape _ ih =>
      have hallowed := fun hmem => (isPlain_of_mem_separators (hbanned hmem)).1 hquote
      refine ⟨hcode depth _ (Int.le_refl _) fun _ => hallowed, ?_⟩
      rw [step_code_quote hquote, along_append, run_string hfree hescape]
      refine ⟨along_string (fun c => hstring depth _ c (Int.le_refl _)) hfree hescape,
        hstring depth _ _ (Int.le_refl _), ?_⟩
      rw [step_string_quote]
      exact ih hbanned hcode hstring
  | group hopening hclosing hinner _ ihInner ih =>
      have hallowed := fun hmem => (isPlain_of_mem_separators (hbanned hmem)).2.2.1 hopening
      refine ⟨hcode depth _ (Int.le_refl _) fun _ => hallowed, ?_⟩
      rw [step_code_opening hopening, along_append, hinner.run]
      refine ⟨ihInner (by simp) (fun d c hd _ => ?_) (fun d q c hd => ?_), ?_, ?_⟩
      · exact hcode d c (by omega) fun hsame => by omega
      · exact hstring d q c (by omega)
      · exact hcode _ _ (by omega) fun hsame => by omega
      · rw [step_code_closing hclosing, Int.add_sub_cancel]
        exact ih hbanned hcode hstring

/-- No separator is found in code that is free of it. -/
theorem passes (h : Closed banned t) {separator : Char} (hbanned : banned ⊆ separators)
    (hseparator : separator ∈ banned) : (code 0).Passes separator t := by
  apply h.along hbanned
  · intro d c _ hfree hcut
    exact hfree ((isTop_code d).mp hcut.1) (hcut.2 ▸ hseparator)
  · intro d q c _ hcut
    simp [isTop, string] at hcut

/-- Closed code is cut at the separator behind it. -/
theorem splitTop?_append (h : Closed banned t) (hbanned : banned ⊆ separators)
    {separator : Char} (hseparator : separator ∈ banned) (u : Text) :
    Nesting.outside.splitTop? separator (t ++ separator :: u) = some (t, u) := by
  refine splitTop?_eq_some_iff.mpr ⟨rfl, ?_, ?_⟩
  · exact h.passes hbanned hseparator
  · rw [outside_eq, h.run]
    rfl

theorem splitTop?_eq_none (h : Closed banned t) (hbanned : banned ⊆ separators)
    {separator : Char} (hseparator : separator ∈ banned) :
    Nesting.outside.splitTop? separator t = none :=
  splitTop?_of_passes (h.passes hbanned hseparator)

theorem staysOpen (h : Closed [] t) {depth : Int} (hdepth : 0 < depth) :
    (code depth).StaysOpen t := by
  apply h.along (List.nil_subset _)
  · intro d c hd _
    show d ≠ 0
    omega
  · intro d q c hd
    show d ≠ 0
    omega

theorem quiet (h : Closed [] t) (depth : Int) : (code depth).Quiet t := by
  apply h.along (List.nil_subset _)
  · exact fun d c _ _ => ⟨Bool.noConfusion, Bool.noConfusion⟩
  · exact fun d q c _ => ⟨Bool.noConfusion, Bool.noConfusion⟩

theorem join {separator : Char} {ts : List Text} (hseparator : IsPlain separator)
    (hfree : separator ∉ banned) (h : ∀ t ∈ ts, Closed banned t) :
    Closed banned (Text.join [separator] ts) := by
  induction ts with
  | nil => exact .nil
  | cons t ts ih =>
      have ht := h t List.mem_cons_self
      have hlater := ih fun u hu => h u (List.mem_cons_of_mem t hu)
      cases ts with
      | nil => exact ht
      | cons u ts =>
          show Closed banned (t ++ [separator] ++ Text.join [separator] (u :: ts))
          rw [List.append_assoc]
          exact ht.append (.plain hseparator hfree hlater)

/-- Closed code between separators is cut at them. -/
theorem pieces_join {separator : Char} {ts : List Text} (hbanned : banned ⊆ separators)
    (hseparator : separator ∈ banned) (hne : ts ≠ []) (h : ∀ t ∈ ts, Closed banned t) :
    (code 0).pieces separator (Text.join [separator] ts) = ts := by
  induction ts with
  | nil => contradiction
  | cons t ts ih =>
      have ht := h t List.mem_cons_self
      have hpasses : (code 0).Passes separator t := ht.passes hbanned hseparator
      cases ts with
      | nil => exact pieces_of_passes hpasses
      | cons u ts =>
          have hlater := ih (List.cons_ne_nil u ts) fun v hv => h v (List.mem_cons_of_mem t hv)
          have htop : ((code 0).run t).isTop = true := by
            rw [ht.run]
            rfl
          show (code 0).pieces separator (t ++ [separator] ++ Text.join [separator] (u :: ts)) = _
          rw [List.append_assoc, List.singleton_append, pieces_append hpasses htop, ht.run, hlater]

/-- The bracket around closed code is closed behind it. -/
theorem closingBracket?_append (h : Closed [] t) {c : Char} (hclosing : IsClosing c)
    (after : Text) :
    closingBracket? none 1 (t ++ c :: after) = some (t, after) := by
  have hrun := h.run 1
  have hopen : (code 1).StaysOpen (t ++ [c]) := by
    refine along_append.mpr ⟨h.staysOpen Int.one_pos, ?_⟩
    rw [hrun]
    exact ⟨Int.one_ne_zero, trivial⟩
  have hzero : ((code 1).run (t ++ [c])).depth = 0 := by
    rw [run_append, hrun, run_cons, step_code_closing hclosing]
    rfl
  exact closingBracket?_of_quiet (sound_code 1) Int.one_pos hopen hzero (h.quiet 1)

end Closed

end Weave
