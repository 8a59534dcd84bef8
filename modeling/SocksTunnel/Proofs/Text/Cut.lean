import Mathlib.Data.List.DropRight
import SocksTunnel.Text.Sign

/-
  SocksTunnel.Proofs.Text.Cut — texts that are put together from parts and cut again.

  Proved: a cut at the last separator finds the parts around it (`cutLast_append`), a cut at all
  of them the parts without one (`splitOn_pair`, `splitOn_triple`), and a cut of broken text a
  part that is broken (`exists_broken_part`). A first part of one class ends in one place only
  (`append_inj_of_class`). A strip takes nothing from a text without
  characters of its class (`strip_eq_self`) and adds nothing to any (`mem_of_mem_strip`): it
  takes all that stands at the ends (`exists_strip`, `strip_append`).
-/

namespace SocksTunnel.Text

variable {p : Char → Bool} {sep c : Char} {t : Text}

theorem dropWhile_eq_self (h : ∀ c ∈ t.head?, p c = false) : t.dropWhile p = t := by
  cases t with
  | nil => rfl
  | cons c r => exact List.dropWhile_cons_of_neg (by simp [h c rfl])

theorem strip_eq_self (h : ∀ c ∈ t, p c = false) : strip p t = t := by
  have hd : ∀ u : Text, (∀ c ∈ u, p c = false) → u.dropWhile p = u := fun u hu =>
    dropWhile_eq_self fun c hc => hu c (List.mem_of_mem_head? hc)
  rw [strip, hd t h, hd t.reverse fun c hc => h c (List.mem_reverse.mp hc), List.reverse_reverse]

theorem mem_of_mem_strip (h : c ∈ strip p t) : c ∈ t := by
  rw [strip, List.mem_reverse] at h
  exact (List.dropWhile_sublist p).mem (List.mem_reverse.mp ((List.dropWhile_sublist p).mem h))

/-- A text is its strip between characters of the class. -/
theorem exists_strip (p : Char → Bool) (t : Text) : ∃ l r : Text, (∀ c ∈ l, p c = true) ∧ (∀ c ∈ r, p c = true) ∧
    t = l ++ strip p t ++ r ∧ ∀ c ∈ (strip p t).getLast?, p c = false := by
  refine ⟨t.takeWhile p, (t.dropWhile p).rtakeWhile p, fun c => List.mem_takeWhile_imp, fun c => List.mem_rtakeWhile_imp,
    ?_, ?_⟩
  · rw [List.append_assoc, show strip p t = (t.dropWhile p).rdropWhile p from rfl, List.rdropWhile_append_rtakeWhile,
      List.takeWhile_append_dropWhile]
  · intro c hc
    rw [strip, List.getLast?_reverse] at hc
    have hn := List.head?_dropWhile_not p (t.dropWhile p).reverse
    rw [hc] at hn
    exact hn

/-- A strip takes what is of the class at both ends, up to the first character that is not. -/
theorem strip_append {l m r : Text} (hl : ∀ c ∈ l, p c = true) (hr : ∀ c ∈ r, p c = true) (hne : m ≠ [])
    (hfirst : ∀ c ∈ m.head?, p c = false) (hlast : ∀ c ∈ m.getLast?, p c = false) : strip p (l ++ m ++ r) = m := by
  have hfront : (l ++ (m ++ r)).dropWhile p = m ++ r := by
    rw [List.dropWhile_append_of_pos hl]
    exact dropWhile_eq_self fun c hc => hfirst c (by rwa [List.head?_append_of_ne_nil _ hne] at hc)
  have hback : (r.reverse ++ m.reverse).dropWhile p = m.reverse := by
    rw [List.dropWhile_append_of_pos fun c hc => hr c (List.mem_reverse.mp hc)]
    exact dropWhile_eq_self fun c hc => hlast c (by rwa [List.head?_reverse] at hc)
  rw [strip, List.append_assoc, hfront, List.reverse_append, hback, List.reverse_reverse]

/-- A first part of one class, and what follows outside of it, are found in one way only. -/
theorem append_inj_of_class {a b x y : Text} (ha : ∀ c ∈ a, p c = true) (hb : ∀ c ∈ b, p c = true)
    (hx : ∀ c ∈ x.head?, p c = false) (hy : ∀ c ∈ y.head?, p c = false) (h : a ++ x = b ++ y) : a = b ∧ x = y := by
  have htake : ∀ u v : Text, (∀ c ∈ u, p c = true) → (∀ c ∈ v.head?, p c = false) → (u ++ v).takeWhile p = u := by
    intro u v hu hv
    rw [List.takeWhile_append_of_pos hu]
    cases v with
    | nil => exact List.append_nil u
    | cons c v => rw [List.takeWhile_cons_of_neg (by simp [hv c rfl]), List.append_nil]
  have hab : a = b := by rw [← htake a x ha hx, h, htake b y hb hy]
  subst hab
  exact ⟨rfl, List.append_cancel_left h⟩

theorem mem_intercalate {α : Type} {sep c : α} {parts : List (List α)} (h : c ∈ [sep].intercalate parts) :
    c = sep ∨ ∃ u ∈ parts, c ∈ u := by
  induction parts with
  | nil => cases h
  | cons u r ih =>
    cases r with
    | nil => exact .inr ⟨u, List.mem_cons_self, by simpa [List.intercalate] using h⟩
    | cons v r =>
      have h' : c ∈ u ∨ c = sep ∨ c ∈ [sep].intercalate (v :: r) := by
        simpa [List.intercalate, List.intersperse] using h
      rcases h' with h' | h' | h'
      · exact .inr ⟨u, List.mem_cons_self, h'⟩
      · exact .inl h'
      · rcases ih h' with h' | ⟨w, hw, hcw⟩
        · exact .inl h'
        · exact .inr ⟨w, List.mem_cons_of_mem _ hw, hcw⟩

/-- Broken text stays broken in one of its parts. -/
theorem exists_broken_part (b : BrokenText) (sep : Char) : ∃ w : BrokenText, w.signs ∈ b.signs.splitOn (.char sep) := by
  obtain ⟨s, hs⟩ := b.exists_surrogate
  have hjoin : [Sign.char sep].intercalate (b.signs.splitOn (.char sep)) = b.signs := List.intercalate_splitOn _
  rw [← hjoin] at hs
  rcases mem_intercalate hs with h | ⟨u, hu, hsu⟩
  · cases h
  · exact ⟨⟨u, ofSigns?_eq_none_iff.mpr ⟨s, hsu⟩⟩, hu⟩

theorem cutLast_append (a : Text) {b : Text} (h : sep ∉ b) : cutLast sep (a ++ sep :: b) = some (a, b) := by
  induction a with
  | nil => simp [cutLast, cutLast_eq_none_iff.mpr h]
  | cons c r ih => rw [List.cons_append, cutLast, ih]

theorem splitOn_pair {a b : Text} (ha : sep ∉ a) (hb : sep ∉ b) : (a ++ sep :: b).splitOn sep = [a, b] := by
  rw [List.splitOn_append_cons_self_of_not_mem ha, List.splitOn_eq_singleton hb]

theorem splitOn_triple {a b c : Text} (ha : sep ∉ a) (hb : sep ∉ b) (hc : sep ∉ c) :
    (a ++ sep :: b ++ sep :: c).splitOn sep = [a, b, c] := by
  rw [List.append_assoc, List.cons_append, List.splitOn_append_cons_self_of_not_mem ha, splitOn_pair hb hc]

end SocksTunnel.Text
