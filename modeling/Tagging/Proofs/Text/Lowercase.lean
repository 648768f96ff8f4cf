import Mathlib.Tactic.SplitIfs
import Tagging.Text.Segment

/-!
# Lower case is settled after one pass

A text in lower case has no letter that another pass would change: no partner of a letter has a
partner of its own, and none is one of the two capitals that need more than a partner.  Nor does
lower case make a letter of a sign or a sign of a letter, so a segment is a word exactly when it is
one in lower case.

* `spanInRanges`, `passesOver` — a stretch of code points among ranges and between runs;
* `covers_letters`, `covers_partners`, `settled_partners` — **the table of letters**, looked at run
  by run;
* `LowerPair`, `lowerIn_pair` — what this means for one letter and its partner;
* `lowerBetween_of_mem`, `lower_lower` — **lower case is idempotent**;
* `isWord_lower` — **lower case keeps words words**, and nothing else becomes one.
-/

namespace Tagging.Text

/-! ## Stretches of code points -/

/-- Does one of the sorted ranges hold all code points from `lo` to `hi`?  This and what follows is
run over the whole table, so the comparisons are those that the kernel computes by itself. -/
def spanInRanges (lo hi : Nat) : List (Nat × Nat) → Bool
  | [] => false
  | (first, last) :: rest =>
    Nat.ble first lo && (Nat.ble hi last || spanInRanges lo hi rest)

theorem inRanges_of_span {lo hi n : Nat} {ranges : List (Nat × Nat)}
    (h : spanInRanges lo hi ranges = true) (hlo : lo ≤ n) (hhi : n ≤ hi) :
    inRanges n ranges = true := by
  induction ranges with
  | nil => cases h
  | cons r rest ih =>
    obtain ⟨first, last⟩ := r
    simp only [spanInRanges, Bool.and_eq_true, Bool.or_eq_true, Nat.ble_eq] at h
    obtain ⟨hfirst, hhere | hrest⟩ := h
    · rw [inRanges, if_neg (by omega), if_pos (by omega)]
    · rw [inRanges, if_neg (by omega)]
      split_ifs
      · rfl
      · exact ih hrest

/-- Does no run hold a code point from `lo` to `hi`?  With `alternate`, only every second one from
`lo` on is asked for, and may lie between the letters of a run. -/
def passesOver (lo hi : Nat) (alternate : Bool) : List LowerRun → Bool
  | [] => true
  | ⟨first, last, step, _⟩ :: rest =>
    Nat.blt hi first ||
      ((Nat.blt last lo || (alternate && Nat.beq step 2 && Nat.beq ((lo + first) % 2) 1)) &&
        passesOver lo hi alternate rest)

theorem lowerIn_of_passesOver {lo hi n : Nat} {alternate : Bool} {runs : List LowerRun}
    (h : passesOver lo hi alternate runs = true) (hlo : lo ≤ n) (hhi : n ≤ hi)
    (heven : alternate = true → (n - lo) % 2 = 0) : lowerIn n runs = n := by
  induction runs with
  | nil => rfl
  | cons r rest ih =>
    obtain ⟨first, last, step, target⟩ := r
    simp only [passesOver, Bool.or_eq_true, Bool.and_eq_true, Nat.blt_eq, Nat.beq_eq] at h
    rw [lowerIn]
    dsimp only
    split_ifs with hbefore hwithin hmod
    · rfl
    · -- a run around `n` can only have its letters beside it
      exfalso
      rcases h with hbehind | ⟨hbeyond | ⟨⟨halternate, hstep⟩, hodd⟩, -⟩
      · omega
      · omega
      · have hn := heven halternate
        rw [hstep] at hmod
        omega
    · rfl
    · rcases h with hbehind | ⟨-, hrest⟩
      · omega
      · exact ih hrest

/-! ## Runs of letters -/

namespace LowerRun

/-- The code point `n` is the letter of the run at the distance `d` from its first. -/
structure Letter (r : LowerRun) (n d : Nat) : Prop where
  /-- Its place. -/
  eq : n = r.first + d
  /-- The run does not end before it. -/
  le : n ≤ r.last
  /-- The run does not pass over it. -/
  mod : d % r.step = 0

/-- The distances of the letters of a run from its first. -/
def offsets (r : LowerRun) : List Nat :=
  (List.range ((r.last - r.first) / r.step + 1)).map fun i => i * r.step

/-- Are all these distances even? -/
def alternate (r : LowerRun) : Bool := Nat.beq r.step 2 || Nat.beq r.first r.last

/-- The last partner of a letter, or what is next to it. -/
def lastTarget (r : LowerRun) : Nat := r.target + (r.last - r.first)

/-- Do the ranges hold what is as far from `start` as the letters of a run from its first?  They may
hold all between the outermost of them, or else each by itself. -/
def covers (r : LowerRun) (start : Nat) (ranges : List (Nat × Nat)) : Bool :=
  spanInRanges start (start + (r.last - r.first)) ranges ||
    r.offsets.all fun d => spanInRanges (start + d) (start + d) ranges

/-- Are the partners characters for which lower case has nothing more to do?  They lie on one side
of the surrogates and of the dotted capital I, and in no run. -/
def settled (r : LowerRun) : Bool :=
  (Nat.blt r.lastTarget 0xD800 || (Nat.blt 0xDFFF r.target && Nat.blt r.lastTarget 0x110000)) &&
    (Nat.blt r.lastTarget 0x130 || Nat.blt 0x130 r.target) &&
    passesOver r.target r.lastTarget r.alternate lowerRuns

variable {r : LowerRun} {n d start : Nat}

theorem Letter.mem_offsets (h : r.Letter n d) : d ∈ r.offsets := by
  obtain ⟨heq, hle, hmod⟩ := h
  have hdistance : d / r.step ≤ (r.last - r.first) / r.step := Nat.div_le_div_right (by omega)
  refine List.mem_map.2 ⟨d / r.step, List.mem_range.2 (by omega), ?_⟩
  exact Nat.div_mul_cancel (Nat.dvd_of_mod_eq_zero hmod)

theorem Letter.even (h : r.Letter n d) (halternate : r.alternate = true) : d % 2 = 0 := by
  obtain ⟨heq, hle, hmod⟩ := h
  simp only [alternate, Bool.or_eq_true, Nat.beq_eq] at halternate
  rcases halternate with hstep | hone
  · rwa [hstep] at hmod
  · omega

theorem Letter.le_lastTarget (h : r.Letter n d) : r.target + d ≤ r.lastTarget := by
  obtain ⟨heq, hle, -⟩ := h
  unfold lastTarget
  omega

theorem inRanges_of_covers {ranges : List (Nat × Nat)} (h : r.covers start ranges = true)
    (hletter : r.Letter n d) : inRanges (start + d) ranges = true := by
  rw [covers, Bool.or_eq_true, List.all_eq_true] at h
  rcases h with hspan | heach
  · obtain ⟨heq, hle, -⟩ := hletter
    exact inRanges_of_span hspan (by omega) (by omega)
  · exact inRanges_of_span (heach d hletter.mem_offsets) (Nat.le_refl _) (Nat.le_refl _)

end LowerRun

/-- **The letters of the table** are alphanumeric. -/
theorem covers_letters :
    lowerRuns.all (fun r => r.covers r.first alphanumericRanges) = true := by
  decide +kernel

/-- **Their partners** are alphanumeric. -/
theorem covers_partners :
    lowerRuns.all (fun r => r.covers r.target alphanumericRanges) = true := by
  decide +kernel

/-- **Their partners** are in lower case. -/
theorem settled_partners : lowerRuns.all LowerRun.settled = true := by
  decide +kernel

/-! ## Letters and their partners -/

/-- A letter and its partner. -/
structure LowerPair (n m : Nat) : Prop where
  /-- The letter is one. -/
  letter : inRanges n alphanumericRanges = true
  /-- So is the partner. -/
  partner : inRanges m alphanumericRanges = true
  /-- The partner is a character. -/
  valid : m.isValidChar
  /-- It has no partner of its own. -/
  fixed : lowerIn m lowerRuns = m
  /-- It is not the dotted capital I. -/
  ne_dotted : m ≠ 0x130

theorem lowerIn_cases (n : Nat) (runs : List LowerRun) :
    lowerIn n runs = n ∨ ∃ r ∈ runs, ∃ d, r.Letter n d ∧ lowerIn n runs = r.target + d := by
  induction runs with
  | nil => exact .inl rfl
  | cons r rest ih =>
    rw [lowerIn]
    split_ifs with hbefore hwithin hmod
    · exact .inl rfl
    · exact .inr ⟨r, List.mem_cons_self, _, ⟨by omega, hwithin, hmod⟩, rfl⟩
    · exact .inl rfl
    · rcases ih with hself | ⟨r', hr', d, hletter, hlower⟩
      · exact .inl hself
      · exact .inr ⟨r', List.mem_cons_of_mem _ hr', d, hletter, hlower⟩

/-- A code point is kept, or is a letter that becomes its partner. -/
theorem lowerIn_pair (n : Nat) :
    lowerIn n lowerRuns = n ∨ LowerPair n (lowerIn n lowerRuns) := by
  rcases lowerIn_cases n lowerRuns with hself | ⟨r, hr, d, hletter, hlower⟩
  · exact .inl hself
  · have hfirst := List.all_eq_true.1 covers_letters r hr
    have htarget := List.all_eq_true.1 covers_partners r hr
    have hsettled := List.all_eq_true.1 settled_partners r hr
    simp only [LowerRun.settled, Bool.and_eq_true, Bool.or_eq_true, Nat.blt_eq] at hsettled
    obtain ⟨⟨hvalid, hdotted⟩, hruns⟩ := hsettled
    have hlast := hletter.le_lastTarget
    refine .inr ?_
    rw [hlower]
    exact {
      letter := hletter.eq ▸ LowerRun.inRanges_of_covers hfirst hletter
      partner := LowerRun.inRanges_of_covers htarget hletter
      valid := hvalid.imp (fun hbelow => by omega) fun habove => ⟨by omega, by omega⟩
      fixed := lowerIn_of_passesOver hruns (Nat.le_add_right _ _) hlast fun halternate => by
        rw [Nat.add_sub_cancel_left]
        exact hletter.even halternate
      ne_dotted := by omega }

theorem toNat_lowerChar (c : Char) : (lowerChar c).toNat = lowerIn c.toNat lowerRuns := by
  have hvalid : (lowerIn c.toNat lowerRuns).isValidChar := by
    rcases lowerIn_pair c.toNat with hself | hpair
    · rw [hself]
      exact c.valid
    · exact hpair.valid
  rw [lowerChar, Char.ofNat, dif_pos hvalid]
  rfl

/-- The partner of a letter has none. -/
theorem lowerChar_lowerChar (c : Char) : lowerChar (lowerChar c) = lowerChar c := by
  apply Char.toNat_inj.1
  rw [toNat_lowerChar, toNat_lowerChar]
  rcases lowerIn_pair c.toNat with hself | hpair
  · rw [hself, hself]
  · exact hpair.fixed

theorem isAlphanumeric_lowerChar (c : Char) : isAlphanumeric (lowerChar c) = isAlphanumeric c := by
  rw [isAlphanumeric, isAlphanumeric, toNat_lowerChar]
  rcases lowerIn_pair c.toNat with hself | hpair
  · rw [hself]
  · rw [hpair.letter, hpair.partner]

/-- No partner is a capital sigma, which has a partner. -/
theorem lowerChar_ne_sigma (c : Char) : lowerChar c ≠ 'Σ' := by
  intro h
  have hfixed := lowerChar_lowerChar c
  rw [h] at hfixed
  exact absurd hfixed (by decide +kernel)

theorem lowerChar_ne_dotted {c : Char} (h : c ≠ 'İ') : lowerChar c ≠ 'İ' := by
  intro heq
  have hcode := congrArg Char.toNat heq
  rw [toNat_lowerChar] at hcode
  rcases lowerIn_pair c.toNat with hself | hpair
  · rw [hself] at hcode
    exact h (Char.toNat_inj.1 hcode)
  · exact hpair.ne_dotted hcode

/-! ## Texts -/

theorem lowerBetween_eq_self {c : Char} (hsigma : c ≠ 'Σ') (hdotted : c ≠ 'İ')
    (hfixed : lowerChar c = c) (before after : List Char) : lowerBetween before c after = [c] := by
  rw [lowerBetween, if_neg hsigma, if_neg hdotted, hfixed]

/-- What becomes of the two capitals that need more than a partner is kept. -/
theorem lowerBetween_small {c : Char} (h : c ∈ ['ς', 'σ', 'i', '\u0307'])
    (before after : List Char) : lowerBetween before c after = [c] := by
  simp only [List.mem_cons, List.not_mem_nil, or_false] at h
  rcases h with rfl | rfl | rfl | rfl
  all_goals exact lowerBetween_eq_self (by decide) (by decide) (by decide +kernel) before after

/-- A character of the lower case is its own, wherever it stands. -/
theorem lowerBetween_of_mem {before after : List Char} {c c' : Char}
    (h : c' ∈ lowerBetween before c after) (before' after' : List Char) :
    lowerBetween before' c' after' = [c'] := by
  unfold lowerBetween at h
  split_ifs at h with hsigma hdotted
  · apply lowerBetween_small
    rw [List.mem_singleton.1 h, sigmaAt]
    split_ifs <;> simp
  · apply lowerBetween_small
    simp only [List.mem_cons] at h ⊢
    exact .inr (.inr h)
  · obtain rfl := List.mem_singleton.1 h
    exact lowerBetween_eq_self (lowerChar_ne_sigma c) (lowerChar_ne_dotted hdotted)
      (lowerChar_lowerChar c) _ _

theorem lowerAfter_eq_self {cs : List Char} (before : List Char)
    (h : ∀ c ∈ cs, ∀ before' after', lowerBetween before' c after' = [c]) :
    lowerAfter before cs = cs := by
  induction cs generalizing before with
  | nil => rfl
  | cons c rest ih =>
    rw [List.forall_mem_cons] at h
    rw [lowerAfter, h.1, ih _ h.2, List.singleton_append]

theorem lowerBetween_of_mem_lowerAfter {before cs : List Char} {c : Char}
    (h : c ∈ lowerAfter before cs) (before' after' : List Char) :
    lowerBetween before' c after' = [c] := by
  induction cs generalizing before with
  | nil => cases h
  | cons c' rest ih =>
    rw [lowerAfter, List.mem_append] at h
    rcases h with hhere | hrest
    · exact lowerBetween_of_mem hhere before' after'
    · exact ih hrest

/-- **Lower case is idempotent.** -/
theorem lower_lower (s : String) : lower (lower s) = lower s := by
  rw [lower, lower, String.toList_ofList]
  exact congrArg String.ofList
    (lowerAfter_eq_self [] fun _ hc => lowerBetween_of_mem_lowerAfter hc)

theorem any_lowerBetween (before : List Char) (c : Char) (after : List Char) :
    (lowerBetween before c after).any isAlphanumeric = isAlphanumeric c := by
  unfold lowerBetween
  split_ifs with hsigma hdotted
  · subst hsigma
    rw [sigmaAt]
    split_ifs
    · decide +kernel
    · decide +kernel
  · subst hdotted
    decide +kernel
  · rw [List.any_cons, List.any_nil, Bool.or_false, isAlphanumeric_lowerChar]

theorem any_lowerAfter (before cs : List Char) :
    (lowerAfter before cs).any isAlphanumeric = cs.any isAlphanumeric := by
  induction cs generalizing before with
  | nil => rfl
  | cons c rest ih => rw [lowerAfter, List.any_append, any_lowerBetween, ih, List.any_cons]

/-- **Lower case keeps words words**, and nothing else becomes one. -/
theorem isWord_lower (s : String) : isWord (lower s) = isWord s := by
  rw [isWord, lower, String.toList_ofList, any_lowerAfter, isWord]

end Tagging.Text
