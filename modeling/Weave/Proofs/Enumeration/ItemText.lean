import Mathlib.Data.List.Forall2
import Mathlib.Data.List.TakeWhile
import Weave.Enumeration.ItemText
import Weave.Proofs.Text.Cut

/-!
# What the text of an item loses

The first paragraph of a list item is shown without its number and without its final colons.
`Tidied` says what may go and that all else stays: `IsNumberPrefix` is the form of the number, and
`ColonDropped` relates an element to the element without the colon at the end of a text in it.
`tidied_takeColons` says that cleaning a paragraph tidies it.
-/

namespace Weave

/-! ## Dotted numbers -/

namespace Ordinal

/-- A run of decimal digits. -/
def IsDigitGroup (g : Text) : Prop := g ≠ [] ∧ ∀ c ∈ g, Text.isDecimalDigit c = true

theorem digits_append (t : Text) : (digits t).1 ++ (digits t).2 = t :=
  List.takeWhile_append_dropWhile

theorem isDigitGroup_digits {t : Text} (h : (digits t).1.isEmpty = false) :
    IsDigitGroup (digits t).1 := by
  refine ⟨fun hnil => ?_, fun c hc => List.mem_takeWhile_imp hc⟩
  rw [hnil] at h
  contradiction

/-- Groups that are read, with their dots in front, and the rest make up the text. -/
theorem dottedGroups_append (fuel : Nat) (t : Text) :
    (dottedGroups fuel t).1.flatMap ('.' :: ·) ++ (dottedGroups fuel t).2 = t ∧
      ∀ g ∈ (dottedGroups fuel t).1, IsDigitGroup g := by
  induction fuel generalizing t with
  | zero => exact ⟨rfl, by simp [dottedGroups]⟩
  | succ fuel ih =>
    unfold dottedGroups
    split
    · rename_i after
      cases hempty : (digits after).1.isEmpty with
      | true => simp [hempty]
      | false =>
        obtain ⟨happend, hgroups⟩ := ih (digits after).2
        simp only [hempty, Bool.false_eq_true, if_false, List.flatMap_cons, List.append_assoc,
          happend, List.cons_append, digits_append, List.forall_mem_cons, true_and]
        exact ⟨isDigitGroup_digits hempty, hgroups⟩
    · simp

theorem joinGroups_cons (g : Text) (gs : List Text) :
    joinGroups (g :: gs) = g ++ gs.flatMap ('.' :: ·) :=
  Text.join_cons '.' g gs

theorem joinGroups_singleton (g : Text) : joinGroups [g] = g := rfl

/-- The dotted number that is read and the rest make up the text. -/
theorem joinGroups_dotted_append (t : Text) :
    joinGroups (dotted t).1 ++ (dotted t).2 = t ∧ ∀ g ∈ (dotted t).1, IsDigitGroup g := by
  unfold dotted
  cases hempty : (digits t).1.isEmpty with
  | true => simp [hempty, joinGroups, Text.join]
  | false =>
    obtain ⟨happend, hgroups⟩ := dottedGroups_append (digits t).2.length (digits t).2
    simp only [hempty, Bool.false_eq_true, if_false, joinGroups_cons, List.append_assoc, happend,
      digits_append, List.forall_mem_cons, true_and]
    exact ⟨isDigitGroup_digits hempty, hgroups⟩

end Ordinal

namespace ItemText

/-! ## What may go -/

/-- A number in front of a text: groups of digits with dots between them, a dot, and white space. -/
def IsNumberPrefix (p : Text) : Prop :=
  ∃ groups space : List _, groups ≠ [] ∧ (∀ g ∈ groups, Ordinal.IsDigitGroup g) ∧ space ≠ []
    ∧ (∀ c ∈ space, Text.isSpace c = true) ∧ p = Ordinal.joinGroups groups ++ '.' :: space

/-- A run and the run without a number in front of its first text.  A text of which nothing is left
goes too. -/
inductive NumberDropped : List Inline → List Inline → Prop where
  | kept (content : List Inline) : NumberDropped content content
  | shortened {number t : Text} {rest : List Inline} (hnumber : IsNumberPrefix number)
      (ht : t ≠ []) : NumberDropped (.text (number ++ t) :: rest) (.text t :: rest)
  | emptied {number : Text} {rest : List Inline} (hnumber : IsNumberPrefix number) :
      NumberDropped (.text number :: rest) rest

/-- An element and the element without a colon at the end of each text in it.  Emphasis is entered,
links are not. -/
inductive ColonDropped : Inline → Inline → Prop where
  | kept (x : Inline) : ColonDropped x x
  | text (t : Text) : ColonDropped (.text (t ++ [':'])) (.text t)
  | strong {content content' : List Inline} (h : List.Forall₂ ColonDropped content content') :
      ColonDropped (.strong content) (.strong content')
  | emphasis {content content' : List Inline} (h : List.Forall₂ ColonDropped content content') :
      ColonDropped (.emphasis content) (.emphasis content')
  | strikethrough {content content' : List Inline}
      (h : List.Forall₂ ColonDropped content content') :
      ColonDropped (.strikethrough content) (.strikethrough content')

/-- A paragraph that may have lost its number, and then a colon at the end of each of its texts. -/
def Tidied (content content' : List Inline) : Prop :=
  ∃ unnumbered, NumberDropped content unnumbered
    ∧ List.Forall₂ ColonDropped unnumbered content'

/-! ## What goes -/

/-- What is dropped in front of a text is a number. -/
theorem isNumberPrefix_of_dropNumber? {t kept : Text} (h : dropNumber? t = some kept) :
    ∃ number, IsNumberPrefix number ∧ t = number ++ kept := by
  obtain ⟨happend, hgroups⟩ := Ordinal.joinGroups_dotted_append t
  unfold dropNumber? at h
  simp only at h
  split at h
  · rename_i after hrest
    split at h
    · rename_i hcond
      obtain ⟨hne, hspace⟩ := hcond
      rw [Option.some.injEq] at h
      refine ⟨Ordinal.joinGroups (Ordinal.dotted t).1 ++ '.' :: after.takeWhile Text.isSpace,
        ⟨(Ordinal.dotted t).1, after.takeWhile Text.isSpace, ?_, hgroups, ?_, ?_, rfl⟩, ?_⟩
      · intro hnil
        simp [hnil] at hne
      · cases after with
        | nil => simp at hspace
        | cons c after =>
          have hc : Text.isSpace c = true := by simpa using hspace
          simp [hc]
      · exact fun c hc => List.mem_takeWhile_imp hc
      · rw [← h, List.append_assoc, List.cons_append, List.takeWhile_append_dropWhile, ← hrest,
          happend]
    · contradiction
  · contradiction

theorem numberDropped_stripNumber (content : List Inline) :
    NumberDropped content (stripNumber content).2 := by
  unfold stripNumber
  split
  · split
    · rename_i hdrop
      obtain ⟨number, hnumber, rfl⟩ := isNumberPrefix_of_dropNumber? hdrop
      rw [List.append_nil]
      exact .emptied hnumber
    · rename_i kept hne hdrop
      obtain ⟨number, hnumber, rfl⟩ := isNumberPrefix_of_dropNumber? hdrop
      exact .shortened hnumber fun hnil => hne (hnil ▸ rfl)
    · exact .kept _
  · exact .kept _

mutual

theorem colonDropped_takeColon (x : Inline) : ColonDropped x (takeColon x).2 := by
  cases x with
  | text t =>
    rw [takeColon]
    split
    · rename_i kept hdrop
      rw [Text.dropSuffix?_eq_some_iff.mp hdrop]
      exact .text kept
    · exact .kept _
  | strong content => exact .strong (colonDropped_takeColons content)
  | emphasis content => exact .emphasis (colonDropped_takeColons content)
  | strikethrough content => exact .strikethrough (colonDropped_takeColons content)
  | _ => exact .kept _

theorem colonDropped_takeColons (xs : List Inline) :
    List.Forall₂ ColonDropped xs (takeColons xs).2 := by
  cases xs with
  | nil => exact .nil
  | cons x xs => exact .cons (colonDropped_takeColon x) (colonDropped_takeColons xs)

end

/-- Taking the number and the colons from a paragraph tidies it. -/
theorem tidied_takeColons (content : List Inline) :
    Tidied content (takeColons (stripNumber content).2).2 :=
  ⟨(stripNumber content).2, numberDropped_stripNumber content, colonDropped_takeColons _⟩

end ItemText

end Weave
