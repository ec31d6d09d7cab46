import ApiLint.Console.Line
import Mathlib.Data.List.Chain

/-!
# Texts that are shown as they are

What a markup shows is a text of its own: tags are gone, and so are some backslashes.  A text that is put
into a markup is shown as it is only if nothing in it, and nothing around it, is read as part of a tag.
-/

namespace ApiLint

namespace Console

/-- Does every character take one column, but for line feeds and tabs? -/
def IsNarrow (cs : List Char) : Prop := ∀ c ∈ cs, c = '\n' ∨ c = '\t' ∨ columns c = 1

/-- Does every word of a text fit on a line of so many columns? -/
def HasRoom (room : Nat) (cs : List Char) : Prop :=
  ∀ line ∈ Segment.splitAt '\n' cs, ∀ word ∈ words (expandTabs line), width (trimEnd word) ≤ room

instance {room : Nat} {cs : List Char} : Decidable (HasRoom room cs) := List.decidableBAll _ _

instance {cs : List Char} : Decidable (IsNarrow cs) := List.decidableBAll _ cs

/-- The colons and the blanks of a text. -/
def Emoji.codeMarks (cs : List Char) : List Char := cs.filter fun c => c == ':' || Text.isBlank c

/-- Does a blank stand between any two colons?  Then none of them starts the code of an emoji. -/
def Emoji.IsCodeFree (cs : List Char) : Prop :=
  (codeMarks cs).IsChain fun c d => ¬(c = ':' ∧ d = ':')

instance {cs : List Char} : Decidable (Emoji.IsCodeFree cs) :=
  inferInstanceAs (Decidable ((Emoji.codeMarks cs).IsChain _))

theorem Emoji.codeMarks_append (cs ds : List Char) : codeMarks (cs ++ ds) = codeMarks cs ++ codeMarks ds :=
  List.filter_append ..

/-- Only colons and blanks count. -/
theorem Emoji.codeMarks_cons_of_eq_false {c : Char} (h : (c == ':' || Text.isBlank c) = false)
    (cs : List Char) : codeMarks (c :: cs) = codeMarks cs :=
  List.filter_cons_of_neg (by simp [h])

/-- The characters of a text that are not blank. -/
def inked (cs : List Char) : List Char := cs.filter fun c => !Text.isBlank c

theorem inked_append (cs ds : List Char) : inked (cs ++ ds) = inked cs ++ inked ds :=
  List.filter_append ..

end Console

namespace Markup

/-- Does a tag stand in the text? -/
def HasTag (cs : List Char) : Prop := ∃ rest, ('[' :: rest) <:+ cs ∧ (tagBody? rest).isSome

/-- Does every backslash just before an opening bracket stand before a tag? -/
def IsTidy (cs : List Char) : Prop := ∀ rest, ('\\' :: '[' :: rest) <:+ cs → (tagBody? rest).isSome

/-- The number of backslashes at the end of a text, where so many were read just before it. -/
def backslashesAtEnd (backslashes : Nat) : List Char → Nat
  | [] => backslashes
  | c :: rest => if c = '\\' then backslashesAtEnd (backslashes + 1) rest else backslashesAtEnd 0 rest

/--
Are there no emoji codes in the runs of plain text in a markup, and no characters that the console leaves
out?
-/
def IsCodeless (markup : String) : Prop :=
  ∀ cs, Piece.text cs ∈ pieces [] 0 markup.toList →
    Console.Emoji.replaceCodes cs = cs ∧ ∀ c ∈ cs, Console.isDropped c = false

/-! ## Computing -/

/-- A tag stands in a text if it starts the text or stands in the rest of it. -/
theorem hasTag_cons_iff {c : Char} {rest : List Char} :
    HasTag (c :: rest) ↔ (c = '[' ∧ (tagBody? rest).isSome) ∨ HasTag rest := by
  simp only [HasTag, List.suffix_cons_iff, List.cons.injEq]
  constructor
  · rintro ⟨tail, ⟨rfl, rfl⟩ | hsuffix, htag⟩
    · exact .inl ⟨rfl, htag⟩
    · exact .inr ⟨tail, hsuffix, htag⟩
  · rintro (⟨rfl, htag⟩ | ⟨tail, hsuffix, htag⟩)
    · exact ⟨rest, .inl ⟨rfl, rfl⟩, htag⟩
    · exact ⟨tail, .inr hsuffix, htag⟩

/-- A text is tidy if its rest is and a backslash at its start stands before no bracket but that of a tag. -/
theorem isTidy_cons_iff {c : Char} {rest : List Char} :
    IsTidy (c :: rest) ↔
      (c = '\\' → rest.head? = some '[' → (tagBody? rest.tail).isSome) ∧ IsTidy rest := by
  simp only [IsTidy, List.suffix_cons_iff, List.cons.injEq]
  constructor
  · intro h
    refine ⟨?_, fun more hsuffix => h more (.inr hsuffix)⟩
    rintro rfl hhead
    obtain ⟨more, rfl⟩ := List.head?_eq_some_iff.mp hhead
    exact h more (.inl ⟨rfl, rfl⟩)
  · rintro ⟨hfirst, hrest⟩ more (⟨rfl, rfl⟩ | hsuffix)
    · exact hfirst rfl rfl
    · exact hrest more hsuffix

instance decidableHasTag : (cs : List Char) → Decidable (HasTag cs)
  | [] => .isFalse fun ⟨_, hsuffix, _⟩ => by cases List.suffix_nil.mp hsuffix
  | _ :: rest =>
    have := decidableHasTag rest
    decidable_of_iff _ hasTag_cons_iff.symm

instance decidableIsTidy : (cs : List Char) → Decidable (IsTidy cs)
  | [] => .isTrue fun _ hsuffix => by cases List.suffix_nil.mp hsuffix
  | _ :: rest =>
    have := decidableIsTidy rest
    decidable_of_iff _ isTidy_cons_iff.symm

end Markup

end ApiLint
