import CsgScript.Asset.Writer
import Mathlib.Data.List.Nodup
/-!
# Batches — one writer never names two anonymous assets alike

Every call of a writer is one batch, and the counter advances by one whatever the call does, a
failed call included (`batch_serve`).  Anonymous contents are packaged for the batch about to be
written, so the call in place `k` of a run names its anonymous assets `untitled_<b+k>_0`,
`untitled_<b+k>_1`, … in order, where `b` is the counter the writer started from — `0` for a new
writer (`untitledOf_eq`).  The decimal digits of a natural hold no `_`, so an untitled name tells
its batch and its place (`untitledName_inj`), and no name is made twice (`untitled_never_repeats`).
-/
namespace CsgScript

theorem DecimalText.ofInt_natCast (n : Nat) : DecimalText.ofInt n = toString n := by
  simp [DecimalText.ofInt]

theorem List.append_cons_inj_of_not_mem {α : Type} {x : α} :
    ∀ {l₁ l₂ r₁ r₂ : List α}, x ∉ l₁ → x ∉ l₂ → l₁ ++ x :: r₁ = l₂ ++ x :: r₂ → l₁ = l₂ ∧ r₁ = r₂
  | [], [], _, _, _, _, h => ⟨rfl, by simpa using h⟩
  | [], b :: l₂, _, _, _, h₂, h => by
    obtain ⟨rfl, -⟩ := List.cons.inj h
    exact absurd List.mem_cons_self h₂
  | a :: l₁, [], _, _, h₁, _, h => by
    obtain ⟨rfl, -⟩ := List.cons.inj h
    exact absurd List.mem_cons_self h₁
  | a :: l₁, b :: l₂, _, _, h₁, h₂, h => by
    rw [List.cons_append, List.cons_append, List.cons.injEq] at h
    obtain ⟨rfl, htail⟩ := h
    obtain ⟨rfl, rfl⟩ := append_cons_inj_of_not_mem (List.not_mem_of_not_mem_cons h₁)
      (List.not_mem_of_not_mem_cons h₂) htail
    exact ⟨rfl, rfl⟩

/-- **An untitled name tells its batch and its place**: the decimal digits of a natural hold no
`_`, so the name splits after `untitled_` in one way only. -/
theorem untitledName_inj {b i b' i' : Nat} (h : untitledName b i = untitledName b' i') :
    b = b' ∧ i = i' := by
  have hl := congrArg String.toList h
  simp only [untitledName, DecimalText.ofInt_natCast, String.toList_append, Nat.toString_eq_repr,
    Nat.toList_repr, List.append_assoc] at hl
  have hl := List.append_cancel_left hl
  have underscore : "_".toList = ['_'] := rfl
  rw [underscore, List.singleton_append, List.singleton_append] at hl
  obtain ⟨hb, hi⟩ := List.append_cons_inj_of_not_mem Nat.underscore_not_in_toDigits
    Nat.underscore_not_in_toDigits hl
  have digits_inj : ∀ {m n : Nat}, Nat.toDigits 10 m = Nat.toDigits 10 n → m = n := fun {m n} h =>
    calc m = Nat.ofDigitChars 10 (Nat.toDigits 10 m) 0 := Nat.ofDigitChars_ten_toDigits.symm
      _ = Nat.ofDigitChars 10 (Nat.toDigits 10 n) 0 := by rw [h]
      _ = n := Nat.ofDigitChars_ten_toDigits
  exact ⟨digits_inj hb, digits_inj hi⟩

namespace Writer

/-- The anonymous assets a call hands to writing, packaged for the batch it runs in; a call of
named assets has none. -/
def Call.anonymous (batch : Nat) : Call → List Asset
  | .assets _ => []
  | .contents cs => package batch cs

/-- How many anonymous assets a call makes. -/
def Call.anonymousCount : Call → Nat
  | .assets _ => 0
  | .contents cs => cs.length

/-- The names of the anonymous assets a run of calls makes, call after call. -/
def untitledOf : Writer → Disk → List Call → List String
  | _, _, [] => []
  | w, disk, c :: rest =>
    let (w', disk', _) := w.call disk c
    (c.anonymous w.batch).map Asset.name ++ untitledOf w' disk' rest

/-- The untitled names of a run of calls from batch `n` on: the call in place `k` names its
anonymous assets for batch `n + k`, in their order. -/
def batchNames (n : Nat) (calls : List Call) : List String :=
  (calls.zipIdx n).flatMap fun p => (List.range p.1.anonymousCount).map fun i : Nat => untitledName p.2 i

example : batchNames 0 [.contents [[], []], .assets [], .contents [[]]] =
    ["untitled_0_0", "untitled_0_1", "untitled_2_0"] := by
  decide

theorem batch_call (w : Writer) (disk : Disk) (c : Call) : (w.call disk c).1.batch = w.batch + 1 := by
  cases c <;> rfl

/-- **The counter after a run is the counter before it plus the number of calls.** -/
theorem batch_serve (w : Writer) (disk : Disk) (calls : List Call) :
    (w.serve disk calls).1.batch = w.batch + calls.length := by
  induction calls generalizing w disk with
  | nil => rfl
  | cons c rest ih =>
    rcases hc : w.call disk c with ⟨w', disk', r⟩
    have hb : w'.batch = w.batch + 1 := by rw [← batch_call w disk c, hc]
    simp only [serve, hc, ih, hb, List.length_cons]
    omega

theorem anonymous_names (batch : Nat) (c : Call) :
    (c.anonymous batch).map Asset.name =
      (List.range c.anonymousCount).map fun i : Nat => untitledName batch i := by
  cases c with
  | assets _ => rfl
  | contents cs => exact names_package batch cs

/-- **The call in place `k` of a run names its anonymous assets for batch `b + k`**, where `b` is
the counter the run starts from. -/
theorem untitledOf_eq (w : Writer) (disk : Disk) (calls : List Call) :
    w.untitledOf disk calls = batchNames w.batch calls := by
  induction calls generalizing w disk with
  | nil => rfl
  | cons c rest ih =>
    rcases hc : w.call disk c with ⟨w', disk', r⟩
    have hb : w'.batch = w.batch + 1 := by rw [← batch_call w disk c, hc]
    simp only [untitledOf, hc, ih, hb, batchNames, List.zipIdx_cons, List.flatMap_cons,
      anonymous_names]

theorem mem_batchNames {n : Nat} {calls : List Call} {s : String} (h : s ∈ batchNames n calls) :
    ∃ b i : Nat, n ≤ b ∧ s = untitledName b i := by
  obtain ⟨p, hp, hs⟩ := List.mem_flatMap.1 h
  obtain ⟨i, -, rfl⟩ := List.mem_map.1 hs
  exact ⟨p.2, i, List.le_snd_of_mem_zipIdx hp, rfl⟩

/-- **Untitled names made from one batch on never repeat.**  By induction on the calls: the first
call's names are of batch `n` and differ by place, the later calls' names are of later batches. -/
theorem nodup_batchNames : ∀ (n : Nat) (calls : List Call), (batchNames n calls).Nodup
  | _, [] => List.nodup_nil
  | n, c :: rest => by
    have first : ((List.range c.anonymousCount).map fun i : Nat => untitledName n i).Nodup :=
      List.nodup_range.map fun i j h => (untitledName_inj h).2
    have apart : ∀ s ∈ (List.range c.anonymousCount).map (fun i : Nat => untitledName n i),
        ∀ s' ∈ batchNames (n + 1) rest, s ≠ s' := by
      rintro s hs s' hs' rfl
      obtain ⟨i, -, rfl⟩ := List.mem_map.1 hs
      obtain ⟨b, j, hb, hname⟩ := mem_batchNames hs'
      have := (untitledName_inj hname).1
      omega
    rw [batchNames, List.zipIdx_cons, List.flatMap_cons, ← batchNames]
    exact List.nodup_append.2 ⟨first, nodup_batchNames (n + 1) rest, apart⟩

/-- **A writer never names two anonymous assets alike.**  Over any run of calls — named assets
and anonymous contents mixed, failed calls included — the counter advances once per call; the call
in place `k` names its anonymous assets `untitled_<b+k>_0`, `untitled_<b+k>_1`, … in order, where
`b` is the counter the writer started from (`0` for a new writer); and no name comes twice. -/
theorem untitled_never_repeats (w : Writer) (disk : Disk) (calls : List Call) :
    (w.serve disk calls).1.batch = w.batch + calls.length ∧
    w.untitledOf disk calls = batchNames w.batch calls ∧
    (w.untitledOf disk calls).Nodup := by
  have names := untitledOf_eq w disk calls
  refine ⟨batch_serve w disk calls, names, ?_⟩
  rw [names]
  exact nodup_batchNames w.batch calls

end Writer

end CsgScript
