import ApiLint.Console.Line
import Mathlib.Data.List.TakeWhile
import Mathlib.Tactic.SplitIfs

/-!
# Texts in one style

A word that writes no colour by its parts is the name of a style or stands for itself, but it is never at
fault.  So a text that starts between the opening and the closing tag of such a word can be shown.

Main results:

- Theorem `exists_styleName`: a word without parentheses names a style.
- Theorem `isOk_print_of_pieces`: a text that starts between two tags of one name can be shown.
-/

namespace ApiLint

namespace Console

variable {word : String}

/-- A word without a number sign and parentheses is a colour, or it means nothing. -/
theorem checkColour_eq_or (hsign : word.toList.head? ≠ some '#')
    (hcolor : argument? "color" word.toList = none) (hmixed : argument? "rgb" word.toList = none) :
    checkColour word = .ok () ∨ checkColour word = .error .unknown := by
  unfold checkColour
  dsimp only
  split_ifs with hnamed hhex
  · exact .inl rfl
  · exact absurd hhex.1 hsign
  · exact .inr (by rw [hcolor, hmixed])

end Console

namespace Markup

open Console

variable {word cs after : List Char} {name : String}

/-- A word without a number sign and parentheses names a style. -/
theorem exists_styleName (word : List Char) (s : String) (hsplit : Style.split word = [s])
    (hsign : (Style.small s).toList.head? ≠ some '#')
    (hcolor : argument? "color" (Style.small s).toList = none)
    (hmixed : argument? "rgb" (Style.small s).toList = none) :
    ∃ name, styleName word = .ok name := by
  simp only [styleName, Style.normalForm, hsplit, Style.ofWords]
  cases Attribute.named? (Style.small s) with
  | some aspect => exact ⟨_, rfl⟩
  | none =>
      rcases checkColour_eq_or hsign hcolor hmixed with hcolour | hcolour
      · rw [hcolour]
        exact ⟨_, rfl⟩
      · rw [hcolour]
        exact ⟨_, rfl⟩

/-- A word without an equals sign opens its style. -/
theorem ofTag_of_styleName (hname : styleName word = .ok name) (hsign : '=' ∉ word)
    (hslash : word.head? ≠ some '/') : Change.ofTag word = .ok (.opening ⟨name, []⟩) := by
  have hall : ∀ c ∈ word, (c != '=') = true := by
    intro c hmem
    rw [bne_iff_ne]
    rintro rfl
    exact hsign hmem
  have htake : word.takeWhile (· != '=') = word := List.takeWhile_eq_self_iff.mpr hall
  have hdrop : word.dropWhile (· != '=') = [] := List.dropWhile_eq_nil_iff.mpr hall
  simp only [Change.ofTag, htake, hdrop, List.drop_nil]
  split
  · exact absurd rfl hslash
  · rw [hname]
    rfl

/-- The same word after a slash closes it. -/
theorem ofTag_slash_of_styleName (hname : styleName word = .ok name) (hsign : '=' ∉ word)
    (htrim : Text.trimChars word = word) (hne : word ≠ []) :
    Change.ofTag ('/' :: word) = .ok (.closing name) := by
  have hall : ∀ c ∈ '/' :: word, (c != '=') = true := by
    intro c hmem
    rw [bne_iff_ne]
    rintro rfl
    rcases List.mem_cons.mp hmem with heq | hmem
    · cases heq
    · exact hsign hmem
  have htake : ('/' :: word).takeWhile (· != '=') = '/' :: word := List.takeWhile_eq_self_iff.mpr hall
  simp only [Change.ofTag, htake, htrim, List.isEmpty_eq_false_iff.mpr hne, Bool.false_eq_true, if_false,
    hname, Except.map]

/-- A text that starts between two tags of one name can be shown. -/
theorem isOk_print_of_pieces {markup : String}
    (hpieces : pieces [] 0 markup.toList =
      [.text [], .text [], .tag word, .text cs, .text [], .tag ('/' :: word), .text after])
    (hname : styleName word = .ok name) (hsign : '=' ∉ word) (hslash : word.head? ≠ some '/')
    (htrim : Text.trimChars word = word) (hne : word ≠ []) (columns : Nat) :
    (print columns markup).isOk = true := by
  have hclose : closeNamed name [⟨name, []⟩] = .ok [] := by
    simp [closeNamed, Opening.close, Except.map]
  have hrender : (render markup).isOk = true := by
    simp only [render, hpieces, shown, ofTag_of_styleName hname hsign hslash,
      ofTag_slash_of_styleName hname hsign htrim hne, Change.apply, hclose, Except.map]
    rfl
  rw [print, visible]
  cases hshown : render markup with
  | ok shown => rfl
  | error fault =>
      rw [hshown] at hrender
      cases hrender

end Markup

end ApiLint
