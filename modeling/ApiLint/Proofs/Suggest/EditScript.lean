import ApiLint.Proofs.Suggest.EditDistance
import ApiLint.Suggest.EditScript
import Mathlib.Data.List.Induction
import Mathlib.Order.Bounds.Defs

/-!
# Least edit scripts

The edit distance is the length of a shortest script between two texts.  No script is shorter, because
one edit lowers the cost of what is left to do by at most one, wherever in the text it is made.  And a
script of that length is read off the plain recursion, which takes characters from the ends of the texts.

Main results:

- Theorem `distance_le_of_run?`: an edit saves at most one, wherever it is made.
- Theorem `reaches_reverse_cost`: the plain recursion is the length of a script.
- Theorem `isLeast_editDistance`: the edit distance is the least length of a script.
-/

namespace ApiLint

/-! ## One edit -/

namespace EditDistance

variable {c d : Char} {source source' target : List Char}

/-- One character more at the end of the first text costs at most one. -/
theorem cost_cons_left_le (c : Char) (source target : List Char) :
    cost (c :: source) target ≤ cost source target + 1 := by
  cases target with
  | nil => simp
  | cons t target =>
      rw [cost_cons_cons]
      omega

/-- One character more at the end of the second text costs at most one. -/
theorem cost_cons_right_le (t : Char) (source target : List Char) :
    cost source (t :: target) ≤ cost source target + 1 := by
  cases source with
  | nil => simp
  | cons c source =>
      rw [cost_cons_cons]
      omega

/-- One character more at the end of the first text saves at most one. -/
theorem cost_le_cost_cons_left (c : Char) (source target : List Char) :
    cost source target ≤ cost (c :: source) target + 1 := by
  induction target with
  | nil =>
      rw [cost_nil_right, cost_nil_right, List.length_cons]
      omega
  | cons t target ih =>
      have hshort : cost source (t :: target) ≤ cost source target + 1 :=
        cost_cons_right_le t source target
      rw [cost_cons_cons]
      omega

/-- Another character at the end of the first text saves at most one. -/
theorem cost_cons_le_cost_cons (c d : Char) (source target : List Char) :
    cost (c :: source) target ≤ cost (d :: source) target + 1 := by
  induction target with
  | nil =>
      rw [cost_nil_right, cost_nil_right, List.length_cons, List.length_cons]
      omega
  | cons t target ih =>
      have hc : (if c = t then 0 else 1) ≤ 1 := by split <;> omega
      rw [cost_cons_cons, cost_cons_cons]
      omega

/-- Equal characters put at the ends of two texts keep them as close to a third one. -/
theorem cost_cons_le_of_forall_cost_le (h : ∀ target, cost source target ≤ cost source' target + 1)
    (c : Char) (target : List Char) :
    cost (c :: source) target ≤ cost (c :: source') target + 1 := by
  induction target with
  | nil =>
      have hnil : cost source [] ≤ cost source' [] + 1 := h []
      rw [cost_nil_right, cost_nil_right] at hnil ⊢
      rw [List.length_cons, List.length_cons]
      omega
  | cons t target ih =>
      have hlong : cost source (t :: target) ≤ cost source' (t :: target) + 1 := h (t :: target)
      have hshort : cost source target ≤ cost source' target + 1 := h target
      rw [cost_cons_cons, cost_cons_cons]
      omega

/-- Equal texts around the change of at most one character keep the two close to a third one. -/
theorem cost_append_le {removed added : List Char} (hremoved : removed.length ≤ 1)
    (hadded : added.length ≤ 1) (before after target : List Char) :
    cost (after ++ removed ++ before) target ≤ cost (after ++ added ++ before) target + 1 := by
  induction after generalizing target with
  | nil =>
      rw [List.nil_append, List.nil_append]
      match removed, added, hremoved, hadded with
      | [], [], _, _ => exact Nat.le_succ _
      | [], [d], _, _ => exact cost_le_cost_cons_left d before target
      | [c], [], _, _ => exact cost_cons_left_le c before target
      | [c], [d], _, _ => exact cost_cons_le_cost_cons c d before target
  | cons c after ih => exact cost_cons_le_of_forall_cost_le ih c target

end EditDistance

namespace Edit

variable {text text' target : List Char} {e : Edit} {script : List Edit}

/-- An edit puts at most one character in the place of at most one. -/
theorem exists_of_run? (h : e.run? text = some text') :
    ∃ before removed added after : List Char, removed.length ≤ 1 ∧ added.length ≤ 1 ∧
      text = before ++ removed ++ after ∧ text' = before ++ added ++ after := by
  cases e with
  | insertion i c =>
      obtain ⟨-, rfl⟩ : i ≤ text.length ∧ text.take i ++ c :: text.drop i = text' := by
        simpa [run?] using h
      refine ⟨text.take i, [], [c], text.drop i, by simp, by simp, ?_, by simp⟩
      rw [List.append_nil, List.take_append_drop]
  | deletion i =>
      obtain ⟨hi, rfl⟩ : i < text.length ∧ text.take i ++ text.drop (i + 1) = text' := by
        simpa [run?] using h
      refine ⟨text.take i, [text[i]], [], text.drop (i + 1), by simp, by simp, ?_, by simp⟩
      rw [List.append_assoc, List.singleton_append, List.getElem_cons_drop,
        List.take_append_drop]
  | substitution i c =>
      obtain ⟨hi, rfl⟩ : i < text.length ∧ text.take i ++ c :: text.drop (i + 1) = text' := by
        simpa [run?] using h
      refine ⟨text.take i, [text[i]], [c], text.drop (i + 1), by simp, by simp, ?_, by simp⟩
      rw [List.append_assoc, List.singleton_append, List.getElem_cons_drop,
        List.take_append_drop]

/-- An edit saves at most one. -/
theorem distance_le_of_run? (h : e.run? text = some text') (target : List Char) :
    EditDistance.distance text target ≤ EditDistance.distance text' target + 1 := by
  obtain ⟨before, removed, added, after, hremoved, hadded, rfl, rfl⟩ := exists_of_run? h
  -- The recursion takes characters from the end, so what stands after the edit comes first.
  have hclose : ∀ target, EditDistance.cost (after.reverse ++ removed.reverse ++ before.reverse) target ≤
      EditDistance.cost (after.reverse ++ added.reverse ++ before.reverse) target + 1 :=
    EditDistance.cost_append_le (by simpa using hremoved) (by simpa using hadded) _ _
  rw [EditDistance.distance_eq_cost, EditDistance.distance_eq_cost]
  simpa only [List.reverse_append, List.append_assoc] using hclose target.reverse

/-! ## Scripts -/

/-- No script between two texts is shorter than their distance. -/
theorem distance_le_length_of_runAll? (h : runAll? script text = some target) :
    EditDistance.distance text target ≤ script.length := by
  induction script generalizing text with
  | nil =>
      obtain rfl : text = target := Option.some.inj h
      rw [EditDistance.distance_eq_cost, EditDistance.cost_eq_zero_iff.mpr rfl]
      exact Nat.zero_le _
  | cons e script ih =>
      cases hfirst : e.run? text with
      | none =>
          rw [runAll?, hfirst] at h
          cases h
      | some text' =>
          rw [runAll?, hfirst] at h
          have hrest : EditDistance.distance text' target ≤ script.length := ih h
          have hsaved : EditDistance.distance text target ≤ EditDistance.distance text' target + 1 :=
            distance_le_of_run? hfirst target
          rw [List.length_cons]
          omega

/-- One script after another one. -/
theorem runAll?_append (script later : List Edit) (text : List Char) :
    runAll? (script ++ later) text = (runAll? script text).bind (runAll? later) := by
  induction script generalizing text with
  | nil => rfl
  | cons e script ih =>
      rw [List.cons_append, runAll?, runAll?]
      cases e.run? text with
      | none => rfl
      | some text' => exact ih text'

/-- What follows a text is left alone by an edit of the text. -/
theorem run?_append (h : e.run? text = some text') (suffix : List Char) :
    e.run? (text ++ suffix) = some (text' ++ suffix) := by
  cases e with
  | insertion i c =>
      obtain ⟨hi, rfl⟩ : i ≤ text.length ∧ text.take i ++ c :: text.drop i = text' := by
        simpa [run?] using h
      rw [run?, if_pos (by rw [List.length_append]; omega), List.take_append_of_le_length hi,
        List.drop_append_of_le_length hi, List.append_assoc, List.cons_append]
  | deletion i =>
      obtain ⟨hi, rfl⟩ : i < text.length ∧ text.take i ++ text.drop (i + 1) = text' := by
        simpa [run?] using h
      rw [run?, if_pos (by rw [List.length_append]; omega), List.take_append_of_le_length (Nat.le_of_lt hi),
        List.drop_append_of_le_length hi, List.append_assoc]
  | substitution i c =>
      obtain ⟨hi, rfl⟩ : i < text.length ∧ text.take i ++ c :: text.drop (i + 1) = text' := by
        simpa [run?] using h
      rw [run?, if_pos (by rw [List.length_append]; omega), List.take_append_of_le_length (Nat.le_of_lt hi),
        List.drop_append_of_le_length hi, List.append_assoc, List.cons_append]

/-- Is there a script of a length between two texts? -/
def Reaches (n : Nat) (text target : List Char) : Prop :=
  ∃ script : List Edit, script.length = n ∧ runAll? script text = some target

variable {n m : Nat}

/-- Nothing needs to be done to keep a text. -/
theorem reaches_refl (text : List Char) : Reaches 0 text text := ⟨[], rfl, rfl⟩

/-- One edit is a script. -/
theorem reaches_of_run? (h : e.run? text = some text') : Reaches 1 text text' :=
  ⟨[e], rfl, by simp only [runAll?, h]⟩

/-- The lengths of scripts add up. -/
theorem Reaches.trans (hfirst : Reaches n text text') (hlater : Reaches m text' target) :
    Reaches (n + m) text target := by
  obtain ⟨script, rfl, hscript⟩ := hfirst
  obtain ⟨later, rfl, hlater⟩ := hlater
  refine ⟨script ++ later, List.length_append, ?_⟩
  rw [runAll?_append, hscript, Option.bind_some, hlater]

/-- The shorter one of two scripts is a script. -/
theorem Reaches.min (hn : Reaches n text target) (hm : Reaches m text target) :
    Reaches (min n m) text target := by
  rcases Nat.le_total n m with hle | hle
  · rwa [Nat.min_eq_left hle]
  · rwa [Nat.min_eq_right hle]

/-- What follows a text is left alone by a script for the text. -/
theorem Reaches.append (h : Reaches n text target) (suffix : List Char) :
    Reaches n (text ++ suffix) (target ++ suffix) := by
  obtain ⟨script, rfl, hscript⟩ := h
  refine ⟨script, rfl, ?_⟩
  induction script generalizing text with
  | nil =>
      obtain rfl : text = target := Option.some.inj hscript
      rfl
  | cons e script ih =>
      cases hfirst : e.run? text with
      | none =>
          rw [runAll?, hfirst] at hscript
          cases hscript
      | some text' =>
          rw [runAll?, hfirst] at hscript
          rw [runAll?, run?_append hfirst]
          exact ih hscript

/-- A character is put at the end of a text. -/
theorem reaches_append_singleton (text : List Char) (c : Char) : Reaches 1 text (text ++ [c]) :=
  reaches_of_run? (e := .insertion text.length c) (by simp [run?])

/-- The last character of a text is dropped. -/
theorem reaches_dropLast (text : List Char) (c : Char) : Reaches 1 (text ++ [c]) text :=
  reaches_of_run? (e := .deletion text.length) (by simp [run?])

/-- The last character of a text is replaced. -/
theorem reaches_replaceLast (text : List Char) (c d : Char) :
    Reaches 1 (text ++ [c]) (text ++ [d]) :=
  reaches_of_run? (e := .substitution text.length d) (by simp [run?])

/-- A text is put together character by character. -/
theorem reaches_length_of_nil (target : List Char) : Reaches target.length [] target := by
  induction target using List.reverseRecOn with
  | nil => exact reaches_refl []
  | append_singleton target c ih =>
      rw [List.length_append]
      exact ih.trans (reaches_append_singleton target c)

/-- A text is taken away character by character. -/
theorem reaches_nil_of_length (text : List Char) : Reaches text.length text [] := by
  induction text using List.reverseRecOn with
  | nil => exact reaches_refl []
  | append_singleton text c ih =>
      rw [List.length_append, Nat.add_comm]
      exact (reaches_dropLast text c).trans ih

/-- The plain recursion is the length of a script. -/
theorem reaches_reverse_cost (source target : List Char) :
    Reaches (EditDistance.cost source target) source.reverse target.reverse := by
  induction source, target using EditDistance.cost.induct with
  | case1 target =>
      rw [EditDistance.cost_nil_left, ← List.length_reverse]
      exact reaches_length_of_nil target.reverse
  | case2 source hne =>
      rw [EditDistance.cost_nil_right, ← List.length_reverse]
      exact reaches_nil_of_length source.reverse
  | case3 c source t target ihdelete ihinsert ihdiagonal =>
      rw [List.reverse_cons, List.reverse_cons] at *
      have hdelete := (reaches_dropLast source.reverse c).trans ihdelete
      have hinsert := ihinsert.trans (reaches_append_singleton target.reverse t)
      have hdiagonal : Reaches (EditDistance.cost source target + if c = t then 0 else 1)
          (source.reverse ++ [c]) (target.reverse ++ [t]) := by
        by_cases hchar : c = t
        · rw [if_pos hchar, Nat.add_zero, hchar]
          exact ihdiagonal.append [t]
        · rw [if_neg hchar]
          exact (ihdiagonal.append [c]).trans (reaches_replaceLast target.reverse c t)
      rw [EditDistance.cost_cons_cons, Nat.add_comm (EditDistance.cost source (t :: target))]
      exact (hdelete.min hinsert).min hdiagonal

end Edit

open Edit in
/-- The edit distance is the least length of a script between two strings. -/
theorem isLeast_editDistance (a b : String) :
    IsLeast {n | ∃ script : List Edit, script.length = n ∧ runAll? script a.toList = some b.toList}
      (editDistance a b) := by
  constructor
  · have hreaches := reaches_reverse_cost a.toList.reverse b.toList.reverse
    rw [← EditDistance.distance_eq_cost, List.reverse_reverse, List.reverse_reverse] at hreaches
    exact hreaches
  · rintro n ⟨script, rfl, hscript⟩
    exact distance_le_length_of_runAll? hscript

end ApiLint
