import Mathlib
import CsgScript.Script.ShellWords
/-!
# Splitting — shell words of texts joined at a blank

Splitting a text into shell words is a homomorphism over blanks: when a text is closed, a blank
after it ends whatever word it was in, so the words of `a`, a blank and `b` are the words of `a`
followed by those of `b`, and the whole is closed exactly when `b` is (`split_append_blank`).

The reader is a machine of four modes run over the characters.  Two facts about a run carry the
law.  Words finished before a run stay below what the run finishes (`scan_append_done`).  And a run
that ends closed ends between words or inside one — never inside quotes or after a backslash — so
a blank read next finishes the pending word and leaves the reader between words with nothing
pending, as at the start (`scan_append_blank`).
-/
namespace CsgScript
namespace ShellWords

/-- **Words finished before a run stay below the words the run finishes**: every step reads on
with the same finished words or pushes one more on top of them. -/
theorem scan_append_done (m : Mode) (t w : List Char) (done : List String) :
    ∀ d, scan m t w (done ++ d) = ⟨d.reverse ++ (scan m t w done).words, (scan m t w done).closed⟩ := by
  fun_induction scan m t w done <;> intro d <;> simp_all [scan]

theorem ne_of_isBlank {s : Char} (hs : isBlank s = true) : s ≠ '"' ∧ s ≠ '\'' ∧ s ≠ '\\' := by
  simp only [isBlank, decide_eq_true_eq] at hs
  rcases hs with rfl | rfl | rfl | rfl | rfl | rfl <;> decide

/-- **A blank after a closed run finishes its pending word**, and reading goes on between words
with nothing pending.  The run on `a ++ s :: b` takes the steps of the run on `a`: only an ordinary
character read last could look past the end of `a`, and a closed run never ends on a backslash,
since inside double quotes a final backslash leaves the text open and outside quotes a backslash
escapes the character after it. -/
theorem scan_append_blank {s : Char} (hs : isBlank s = true) (b : List Char) (m : Mode) (a w : List Char)
    (done : List String) (hw : m = .between → w = []) (h : (scan m a w done).closed = true) :
    scan m (a ++ s :: b) w done = scan .between b [] (scan m a w done).words.reverse := by
  obtain ⟨hq, hsq, hbs⟩ := ne_of_isBlank hs
  fun_induction scan m a w done with
  | case8 c rest w done hesc _ ih =>
    have hc : c ≠ '\\' := by
      rintro rfl
      cases rest with
      | nil => simp [scan] at h
      | cons d rest => exact hesc d rest rfl rfl
    simp_all [scan]
  | case15 c rest w done _ _ _ _ hblank _ _ _ _ _ ih =>
    have hc : c ≠ '\\' := (ne_of_isBlank hblank).2.2
    simp_all [scan]
  | case16 m c rest w done hdouble hsingle _ _ _ _ _ _ _ hblank hword ih =>
    have hm : m = .between := by cases m <;> simp_all
    obtain rfl := hw hm
    have hc : c ≠ '\\' := (ne_of_isBlank hblank).2.2
    simp_all [scan]
  | case17 m c rest w done _ _ _ _ _ _ _ hesc hend _ ih =>
    have hc : c ≠ '\\' := fun hc => by
      cases rest with
      | nil => exact hend hc rfl
      | cons d rest => exact hesc d rest hc rfl
    simp_all [scan]
  | _ => simp_all [scan]

/-- **Shell-word splitting is a homomorphism over blanks.**  If a text `a` is closed, the text `a`,
a blank `s` and a text `b` splits into the words of `a` followed by the words of `b`, and is closed
exactly when `b` is. -/
theorem split_append_blank (a b : String) {s : Char} (hs : isBlank s = true) (ha : (split a).closed = true) :
    split (a ++ s.toString ++ b) = ⟨(split a).words ++ (split b).words, (split b).closed⟩ := by
  have hjoin : (a ++ s.toString ++ b).toList = a.toList ++ s :: b.toList := by
    simp [String.toList_append]
  have hrest := scan_append_done .between b.toList [] [] (split a).words.reverse
  rw [List.nil_append, List.reverse_reverse] at hrest
  rw [split, hjoin, scan_append_blank hs b.toList .between a.toList [] [] (fun _ => rfl) ha]
  exact hrest

theorem split_quoted_tab_then_open :
    isBlank '\t' = true ∧ (split "a \"b c\"").closed = true ∧
      split ("a \"b c\"" ++ '\t'.toString ++ "d \"e") =
        ⟨(split "a \"b c\"").words ++ (split "d \"e").words, (split "d \"e").closed⟩ :=
  ⟨by decide, by simp [split, scan, isBlank], split_append_blank _ _ (by decide) (by simp [split, scan, isBlank])⟩

example : split ("a \"b c\"" ++ '\t'.toString ++ "d \"e") = ⟨["a", "b c", "d"], false⟩ := by
  simp [split, scan, isBlank]

end ShellWords
end CsgScript
