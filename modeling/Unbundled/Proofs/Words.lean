import Unbundled.Script.Scan

namespace Unbundled.Proofs.Words

open Script Text

def goesOn (c : Char) : Bool := isNamePart c || c == '\\'

/-- Wherever the word stands, unless it goes on, it is read as one identifier and nothing but the
place of reading changes. -/
def IsIdentifier (w : String) : Prop :=
  ∀ dialect (s : State) before rest, s.text.toList = before ++ (w.toList ++ rest) →
    s.pos = before.length → rest.head?.any goesOn = false →
    Scan.readWord dialect s = .ok (.ident w) { s with pos := s.pos + w.length }

section

variable {α β σ : Type} {dialect : Dialect} {s s' : State}

theorem bind_of_ok {p : Parse α} {a : α} (h : p dialect s = .ok a s') (f : α → Parse β) :
    (p >>= f) dialect s = f a dialect s' := by
  simp only [bind, ReaderT.bind, EStateM.bind, h]

theorem here_bind (f : Nat → Parse β) : (Scan.here >>= f) dialect s = f (s.pos + 1) dialect s := rfl

theorem cur_bind {c : Option Char} (h : s.text[s.pos]? = c) (f : Option Char → Parse β) :
    (Scan.cur >>= f) dialect s = f c dialect s := by
  subst h
  rfl

theorem repeatFrom_inl {step : σ → Parse (σ ⊕ α)} {a a' : σ} (h : step a dialect s = .ok (.inl a') s')
    (fuel : Nat) :
    Parse.repeatFrom step (fuel + 1) a dialect s = Parse.repeatFrom step fuel a' dialect s' := by
  rw [Parse.repeatFrom, bind_of_ok h]

theorem repeatFrom_inr {step : σ → Parse (σ ⊕ α)} {a : σ} {r : α} (h : step a dialect s = .ok (.inr r) s')
    (fuel : Nat) : Parse.repeatFrom step (fuel + 1) a dialect s = .ok r s' := by
  rw [Parse.repeatFrom, bind_of_ok h]
  rfl

theorem loop_twice {init : σ} {r : α} {s'' : State} {step : σ → Parse (σ ⊕ α)} (a : σ) (s' : State)
    (h : step init dialect s = .ok (.inl a) s') (h' : step a dialect s' = .ok (.inr r) s'') :
    Parse.loop init step dialect s = .ok r s'' := by
  change Parse.repeatFrom step (2 * s.text.size + 14 + 1 + 1) init dialect s = _
  rw [repeatFrom_inl h, repeatFrom_inr h']

end

theorem getElem?_of_toList {text : Array Char} {before rest : List Char}
    (h : text.toList = before ++ rest) : text[before.length]? = rest.head? := by
  rw [← Array.getElem?_toList, h, List.getElem?_append_right (Nat.le_refl _), Nat.sub_self,
    List.head?_eq_getElem?]

theorem runEnd_append {text : Array Char} {p : Char → Bool} {before run rest : List Char} {fuel : Nat}
    (htext : text.toList = before ++ (run ++ rest)) (hrun : ∀ c ∈ run, p c = true)
    (hrest : rest.head?.any p = false) (hfuel : run.length ≤ fuel) :
    Scan.runEnd text p fuel before.length = before.length + run.length := by
  induction run generalizing before fuel with
  | nil =>
      cases fuel with
      | zero => rfl
      | succ fuel =>
          rw [Scan.runEnd, getElem?_of_toList htext, List.nil_append]
          cases hc : rest.head? with
          | none => rfl
          | some c =>
              rw [hc, Option.any_some] at hrest
              dsimp only
              rw [hrest]
              rfl
  | cons c run ih =>
      cases fuel with
      | zero => cases hfuel
      | succ fuel =>
          have hnext : Scan.runEnd text p fuel (before ++ [c]).length =
              (before ++ [c]).length + run.length :=
            ih (by simpa using htext) (fun d hd => hrun d (List.mem_cons_of_mem _ hd))
              (Nat.le_of_succ_le_succ hfuel)
          rw [List.length_append, List.length_singleton] at hnext
          rw [Scan.runEnd, getElem?_of_toList htext, List.cons_append, List.head?_cons]
          dsimp only
          rw [if_pos (hrun c List.mem_cons_self), hnext, List.length_cons]
          omega

section

variable {before rest : List Char} {s : State} (dialect : Dialect)

theorem takeWhile_run {p : Char → Bool} {run : List Char}
    (htext : s.text.toList = before ++ (run ++ rest)) (hpos : s.pos = before.length)
    (hrun : ∀ c ∈ run, p c = true) (hrest : rest.head?.any p = false) :
    Scan.takeWhile p dialect s = .ok (String.ofList run) { s with pos := s.pos + run.length } := by
  have hsize : s.text.size - s.pos = run.length + rest.length := by
    rw [← Array.length_toList, htext, hpos]
    simp
  have hend : Scan.runEnd s.text p (s.text.size - s.pos) s.pos = s.pos + run.length := by
    rw [hsize, hpos]
    exact runEnd_append htext hrun hrest (Nat.le_add_right _ _)
  have hslice : Scan.sliceOf s.text s.pos (s.pos + run.length) = String.ofList run := by
    simp [Scan.sliceOf, htext, hpos]
  change EStateM.Result.ok _ _ = _
  rw [hend, hslice]

theorem not_isNamePart_of_not_goesOn {next : Option Char} (h : next.any goesOn = false) :
    next.any isNamePart = false := by
  cases next with
  | none => rfl
  | some c =>
      rw [Option.any_some, goesOn, Bool.or_eq_false_iff] at h
      exact h.1

theorem word_run {w : String} (htext : s.text.toList = before ++ (w.toList ++ rest))
    (hpos : s.pos = before.length) (hne : w.toList ≠ []) (hw : ∀ c ∈ w.toList, isNamePart c = true)
    (hrest : rest.head?.any goesOn = false) :
    Scan.word dialect s = .ok (w, false) { s with pos := s.pos + w.length } := by
  obtain ⟨c, cs, hcs⟩ := List.exists_cons_of_ne_nil hne
  have hc : isNamePart c = true := hw c (hcs ▸ List.mem_cons_self)
  have hslash : c ≠ '\\' := by
    rintro rfl
    cases hc
  have hfirst : s.text[s.pos]? = some c := by
    rw [hpos, getElem?_of_toList htext, hcs]
    rfl
  have hbehind : s.text[s.pos + w.length]? = rest.head? := by
    have hend : s.pos + w.length = (before ++ w.toList).length := by
      rw [hpos, List.length_append, String.length_toList]
    rw [hend, getElem?_of_toList (by rw [htext, List.append_assoc])]
  have htaken := takeWhile_run dialect htext hpos hw (not_isNamePart_of_not_goesOn hrest)
  rw [String.ofList_toList, String.length_toList] at htaken
  -- The first turn takes the word, the second one finds that it does not go on.
  unfold Scan.word
  refine loop_twice (w.toList.reverse, false) { s with pos := s.pos + w.length } ?_ ?_
  · dsimp only
    rw [here_bind, cur_bind hfirst]
    simp only [hc, if_true]
    rw [bind_of_ok htaken, List.append_nil]
    rfl
  · dsimp only
    rw [here_bind, cur_bind hbehind]
    cases hd : rest.head? with
    | none =>
        simp only [List.reverse_reverse, String.ofList_toList]
        rfl
    | some d =>
        rw [hd, Option.any_some, goesOn, Bool.or_eq_false_iff, beq_eq_false_iff_ne] at hrest
        obtain ⟨hpart, hslash⟩ := hrest
        simp only [hpart, Bool.false_eq_true, if_false, List.reverse_reverse, String.ofList_toList]
        rfl

end

theorem isIdentifier_of_isNamePart {w : String} (hne : w.toList ≠ [])
    (hw : ∀ c ∈ w.toList, isNamePart c = true) (hkey : w ∉ keywords) : IsIdentifier w := by
  intro dialect s before rest htext hpos hrest
  have hno : keywords.contains w = false := by simpa using hkey
  unfold Scan.readWord
  rw [here_bind, bind_of_ok (word_run dialect htext hpos hne hw hrest)]
  simp only [Bool.false_and, Bool.false_eq_true, if_false, hno]
  rfl

end Unbundled.Proofs.Words
