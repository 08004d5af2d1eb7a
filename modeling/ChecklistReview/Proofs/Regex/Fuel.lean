import ChecklistReview.Proofs.Regex.Span

/-!
# Fuel of matching

Matching runs on fuel, which bounds how deep its calls are nested. The fuel is bookkeeping: two runs
agree whenever both have as much as the steps can use up on the text, and what `Regex.matchAt?`
gives them is enough. So the answer does not depend on the fuel, and running out of it never looks
like a text that does not match.

Every step makes a run one call deeper, and only repeats come back to a step. At one place a repeat
begins the rounds it owes and one more, because a free round that takes nothing is the last. That
bounds what can still happen at a place (`Next.debt`). Taking a character allows each repeat that
has begun one more round (`Next.renewal`). Assertions, atomic groups and possessive repeats run
their bodies on their own, perhaps from an earlier place, and what this takes is set aside
(`reserveOf`).

## Main statements

* `agree`: two runs with enough fuel are the same.
* `run_eq_of_weight_le`: what `Step.weight` bounds is enough, whatever the place.
* `matchAt?_eq_some_iff`: a match is found exactly if it is found with all fuel from some point on.
-/

namespace ChecklistReview.Regex

-- ════════════════════════════════════════════════════════════════════════
-- What steps use up
-- ════════════════════════════════════════════════════════════════════════

mutual

/-- How many calls deeper a step can take a run that takes no character. -/
def Step.stride : Step → Nat
  | .repeated .possessive _ _ _ => 2
  | .repeated _ least _ body => (strideOf body + 4) * (least + 2)
  | .branch alternatives => strideOfBranches alternatives + 2
  | .conditional _ yes no => strideOf yes + strideOf no + 2
  | _ => 2

def strideOf : List Step → Nat
  | [] => 2
  | s :: rest => s.stride + strideOf rest

def strideOfBranches : List (List Step) → Nat
  | [] => 0
  | steps :: rest => strideOf steps + strideOfBranches rest

end

mutual

/-- What is set aside, for each character of the text, for bodies that are run on their own. -/
def Step.reserve : Step → Nat
  | .repeated .possessive _ _ body => weightOf body
  | .repeated _ _ _ body => reserveOf body
  | .branch alternatives => reserveOfBranches alternatives
  | .atomic body => weightOf body
  | .look _ _ body => weightOf body
  | .conditional _ yes no => reserveOf yes + reserveOf no
  | _ => 0

def reserveOf : List Step → Nat
  | [] => 0
  | s :: rest => s.reserve + reserveOf rest

def reserveOfBranches : List (List Step) → Nat
  | [] => 0
  | steps :: rest => reserveOf steps + reserveOfBranches rest

end

theorem two_le_strideOf (steps : List Step) : 2 ≤ strideOf steps := by
  induction steps with
  | nil => simp [strideOf]
  | cons s rest ih => simp only [strideOf]; omega

theorem strideOf_le_of_mem {alternatives : List (List Step)} {steps : List Step}
    (h : steps ∈ alternatives) : strideOf steps ≤ strideOfBranches alternatives := by
  induction alternatives with
  | nil => simp at h
  | cons first rest ih =>
    simp only [strideOfBranches]
    rcases List.mem_cons.mp h with rfl | h
    · omega
    · have := ih h
      omega

theorem reserveOf_le_of_mem {alternatives : List (List Step)} {steps : List Step}
    (h : steps ∈ alternatives) : reserveOf steps ≤ reserveOfBranches alternatives := by
  induction alternatives with
  | nil => simp at h
  | cons first rest ih =>
    simp only [reserveOfBranches]
    rcases List.mem_cons.mp h with rfl | h
    · omega
    · have := ih h
      omega

mutual

theorem Step.stride_add_reserve_le (s : Step) : s.stride + s.reserve ≤ s.weight := by
  match s with
  | .repeated greed least most body =>
    have hbody := strideOf_add_reserveOf_le body
    have hrounds : (strideOf body + 4) * (least + 2) + reserveOf body * (least + 2) ≤
        (weightOf body + 4) * (least + 2) := by
      rw [← Nat.add_mul]
      exact Nat.mul_le_mul_right _ (by omega)
    have hpos : 0 < least + 2 := by omega
    have hshare := Nat.le_mul_of_pos_right (reserveOf body) hpos
    have honce := Nat.le_mul_of_pos_right (weightOf body + 4) hpos
    cases greed with
    | greedy => simp only [Step.stride, Step.reserve, Step.weight]; omega
    | lazy => simp only [Step.stride, Step.reserve, Step.weight]; omega
    | possessive => simp only [Step.stride, Step.reserve, Step.weight]; omega
  | .branch alternatives =>
    have := strideOfBranches_add_reserveOfBranches_le alternatives
    simp only [Step.stride, Step.reserve, Step.weight]
    omega
  | .conditional _ yes no =>
    have hyes := strideOf_add_reserveOf_le yes
    have hno := strideOf_add_reserveOf_le no
    simp only [Step.stride, Step.reserve, Step.weight]
    omega
  | .atomic body => simp only [Step.stride, Step.reserve, Step.weight]; omega
  | .look _ _ body => simp only [Step.stride, Step.reserve, Step.weight]; omega
  | .one _ | .place _ | .mark _ | .repeatOne _ _ _ _ | .reference _ _ | .fail =>
    simp only [Step.stride, Step.reserve, Step.weight]; omega

theorem strideOf_add_reserveOf_le (steps : List Step) :
    strideOf steps + reserveOf steps ≤ weightOf steps := by
  match steps with
  | [] => simp [strideOf, reserveOf, weightOf]
  | s :: rest =>
    have hfirst := s.stride_add_reserve_le
    have hrest := strideOf_add_reserveOf_le rest
    simp only [strideOf, reserveOf, weightOf]
    omega

theorem strideOfBranches_add_reserveOfBranches_le (alternatives : List (List Step)) :
    strideOfBranches alternatives + reserveOfBranches alternatives ≤
      weightOfBranches alternatives := by
  match alternatives with
  | [] => simp [strideOfBranches, reserveOfBranches, weightOfBranches]
  | steps :: rest =>
    have hfirst := strideOf_add_reserveOf_le steps
    have hrest := strideOfBranches_add_reserveOfBranches_le rest
    simp only [strideOfBranches, reserveOfBranches, weightOfBranches]
    omega

end

-- ════════════════════════════════════════════════════════════════════════
-- What remains to be matched
-- ════════════════════════════════════════════════════════════════════════

/-- How many rounds a repeat can begin at a place: those it owes and a free one. -/
def Loop.rounds (l : Loop) (place : Nat) : Nat :=
  (l.least - l.count) + if l.last = some place then 0 else 1

/-- How many calls deeper what remains can go at a place. -/
def Next.debt (place : Nat) : Next → Nat
  | .done => 1
  | .sequence steps _ next => strideOf steps + next.debt place + 1
  | .loop l _ next => l.rounds place * (strideOf l.body + 4) + next.debt place + 1

/-- How much a character that is taken adds to the debt. -/
def Next.renewal : Next → Nat
  | .done => 0
  | .sequence _ _ next => next.renewal
  | .loop l _ next => strideOf l.body + 4 + next.renewal

/-- What remains keeps, whenever it is resumed, to so many calls for each character and to what is
set aside. -/
def Next.Fits (stride reserve : Nat) : Next → Prop
  | .done => True
  | .sequence steps _ next =>
    strideOf steps + next.renewal ≤ stride ∧ reserveOf steps ≤ reserve ∧ next.Fits stride reserve
  | .loop l _ next =>
    strideOf l.body + (strideOf l.body + 4) + next.renewal ≤ stride ∧
      reserveOf l.body ≤ reserve ∧ next.Fits stride reserve

theorem Loop.rounds_of_owed {l : Loop} (place : Nat) (h : l.count < l.least) :
    l.rounds place = Loop.rounds { l with count := l.count + 1 } place + 1 := by
  simp only [Loop.rounds]
  omega

theorem Loop.rounds_of_free {l : Loop} {place : Nat} (h : ¬l.count < l.least)
    (hlast : l.last ≠ some place) :
    l.rounds place =
      Loop.rounds { l with count := l.count + 1, last := some place } place + 1 := by
  simp only [Loop.rounds, if_neg hlast, if_pos]
  omega

theorem one_le_debt (next : Next) (place : Nat) : 1 ≤ next.debt place := by
  cases next with
  | done => simp [Next.debt]
  | sequence => simp only [Next.debt]; omega
  | loop => simp only [Next.debt]; omega

/-- Wherever matching goes on, only the free rounds are new. -/
theorem debt_le (next : Next) (place later : Nat) :
    next.debt later ≤ next.debt place + next.renewal := by
  induction next with
  | done => simp [Next.debt]
  | sequence steps isNested next ih => simp only [Next.debt, Next.renewal]; omega
  | loop l isNested next ih =>
    have hrounds : l.rounds later ≤ l.rounds place + 1 := by
      simp only [Loop.rounds]
      split <;> omega
    have := Nat.mul_le_mul_right (strideOf l.body + 4) hrounds
    rw [Nat.add_mul, Nat.one_mul] at this
    simp only [Next.debt, Next.renewal]
    omega

/-- The fuel that a run can use up which has gone `debt` deep at a place. -/
def need (text : Array Char) (stride reserve place debt : Nat) : Nat :=
  (text.size - place) * stride + debt + (text.size + 2) * reserve

variable {text : Array Char} {stride reserve : Nat}

/-- Characters that are taken pay for the rounds that they allow. -/
theorem need_le_of_le (reserve : Nat) {next : Next} {place later : Nat}
    (hrenewal : next.renewal ≤ stride) (hle : place ≤ later) (hlater : later ≤ text.size) :
    need text stride reserve later (next.debt later) ≤
      need text stride reserve place (next.debt place) := by
  rcases Nat.eq_or_lt_of_le hle with rfl | hlt
  · exact Nat.le_refl _
  · have hsplit : (text.size - place) * stride =
        (text.size - later) * stride + (later - place) * stride := by
      rw [← Nat.add_mul]
      congr 1
      omega
    have hpaid := Nat.le_mul_of_pos_left stride (Nat.sub_pos_of_lt hlt)
    have hdebt := debt_le next place later
    simp only [need]
    omega

theorem Next.Fits.renewal_le {next : Next} (h : next.Fits stride reserve) :
    next.renewal ≤ stride := by
  cases next with
  | done => exact Nat.zero_le stride
  | sequence steps isNested next =>
    obtain ⟨hstride, -, -⟩ := h
    simp only [Next.renewal]
    omega
  | loop l isNested next =>
    obtain ⟨hstride, -, -⟩ := h
    simp only [Next.renewal]
    omega

-- ════════════════════════════════════════════════════════════════════════
-- Runs with enough fuel
-- ════════════════════════════════════════════════════════════════════════

/-- So much fuel is enough to resume what remains at a place. -/
structure Next.Affordable (text : Array Char) (stride reserve fuel : Nat) (next : Next)
    (place : Nat) : Prop where
  place_le : place ≤ text.size
  fits : next.Fits stride reserve
  need_le : need text stride reserve place (next.debt place) ≤ fuel

/-- So much fuel is enough to run steps, and what remains after them, at a place. -/
structure Affordable (text : Array Char) (stride reserve fuel : Nat) (steps : List Step)
    (next : Next) (place : Nat) : Prop where
  place_le : place ≤ text.size
  stride_le : strideOf steps + next.renewal ≤ stride
  reserve_le : reserveOf steps ≤ reserve
  fits : next.Fits stride reserve
  need_le : need text stride reserve place (strideOf steps + next.debt place) ≤ fuel

section Afford

variable {fuel place : Nat} {step : Step} {rest : List Step} {next : Next}

theorem Affordable.nil (h : Affordable text stride reserve (fuel + 1) [] next place) :
    next.Affordable text stride reserve fuel place := by
  refine ⟨h.place_le, h.fits, ?_⟩
  have := h.need_le
  simp only [need, strideOf] at this ⊢
  omega

theorem Affordable.pos {steps : List Step}
    (h : Affordable text stride reserve fuel steps next place) : 0 < fuel := by
  have hneed := h.need_le
  have hdebt := one_le_debt next place
  simp only [need] at hneed
  omega

theorem Next.Affordable.pos (h : next.Affordable text stride reserve fuel place) : 0 < fuel := by
  have hneed := h.need_le
  have hdebt := one_le_debt next place
  simp only [need] at hneed
  omega

theorem two_le_stride (step : Step) : 2 ≤ step.stride := by
  cases step with
  | repeated greed least most body =>
    have hpos : 0 < least + 2 := by omega
    have honce := Nat.le_mul_of_pos_right (strideOf body + 4) hpos
    cases greed <;> simp only [Step.stride] <;> omega
  | branch => simp only [Step.stride]; omega
  | conditional => simp only [Step.stride]; omega
  | _ => simp [Step.stride]

/-- After a step the run can go on from any later place. -/
theorem Affordable.after {later : Nat}
    (h : Affordable text stride reserve (fuel + 1) (step :: rest) next place)
    (hle : place ≤ later) (hlater : later ≤ text.size) :
    Affordable text stride reserve fuel rest next later := by
  have hstride := h.stride_le
  have hreserve := h.reserve_le
  have hneed := h.need_le
  have hstep := two_le_stride step
  have hpaid := need_le_of_le reserve h.fits.renewal_le hle hlater
  simp only [strideOf, reserveOf, need] at hstride hreserve hneed hpaid
  refine ⟨hlater, by omega, by omega, h.fits, ?_⟩
  simp only [need]
  omega

/-- A step can be replaced by steps that use up less. -/
theorem Affordable.inside {steps : List Step} (isNested : Bool)
    (h : Affordable text stride reserve (fuel + 1) (step :: rest) next place)
    (hstride : strideOf steps + 2 ≤ step.stride) (hreserve : reserveOf steps ≤ step.reserve) :
    Affordable text stride reserve fuel steps (.sequence rest isNested next) place := by
  have hstride' := h.stride_le
  have hreserve' := h.reserve_le
  have hneed := h.need_le
  simp only [strideOf, reserveOf, need] at hstride' hreserve' hneed
  refine ⟨h.place_le, ?_, by omega, ⟨by omega, by omega, h.fits⟩, ?_⟩
  · simp only [Next.renewal]
    omega
  · simp only [need, Next.debt]
    omega

/-- A body that is run on its own can be run from any place. -/
theorem affordable_apart {body : List Step} (hplace : place ≤ text.size)
    (h : (text.size + 2) * weightOf body ≤ fuel) :
    Affordable text (strideOf body) (reserveOf body) fuel body .done place := by
  refine ⟨hplace, Nat.le_refl _, Nat.le_refl _, trivial, ?_⟩
  have hweight := Nat.mul_le_mul_left (text.size + 2) (strideOf_add_reserveOf_le body)
  have hplaces := Nat.mul_le_mul_right (strideOf body) (Nat.sub_le text.size place)
  have htwo := two_le_strideOf body
  rw [Nat.mul_add, Nat.add_mul text.size 2 (strideOf body)] at hweight
  simp only [need, Next.debt]
  omega

theorem Affordable.apart (body : List Step) {start : Nat}
    (h : Affordable text stride reserve (fuel + 1) (step :: rest) next place)
    (hbody : weightOf body ≤ step.reserve) (hstart : start ≤ text.size) :
    Affordable text (strideOf body) (reserveOf body) fuel body .done start := by
  refine affordable_apart hstart ?_
  have hreserve := h.reserve_le
  have hneed := h.need_le
  have hstep := two_le_stride step
  have hle : weightOf body ≤ reserve := by
    simp only [reserveOf] at hreserve
    omega
  have := Nat.mul_le_mul_left (text.size + 2) hle
  simp only [need, strideOf] at hneed
  omega

theorem Affordable.loop {isLazy isNested : Bool} {least : Nat} {most : Option Nat}
    {body : List Step}
    (h : Affordable text stride reserve (fuel + 1) (step :: rest) next place)
    (hstride : step.stride = (strideOf body + 4) * (least + 2))
    (hreserve : step.reserve = reserveOf body) :
    Next.Affordable text stride reserve fuel
      (.loop { isLazy, least, most, body, count := 0, last := none } isNested
        (.sequence rest isNested next)) place := by
  have hstride' := h.stride_le
  have hreserve' := h.reserve_le
  have hneed := h.need_le
  simp only [strideOf, reserveOf, need, hstride, hreserve] at hstride' hreserve' hneed
  have htwice := Nat.mul_le_mul_left (strideOf body + 4) (Nat.le_add_left 2 least)
  rw [show least + 2 = least + 1 + 1 from rfl, Nat.mul_succ] at hneed
  have hbody : reserveOf body ≤ reserve := by omega
  refine ⟨h.place_le, ⟨?_, hbody, by omega, by omega, h.fits⟩, ?_⟩
  · simp only [Next.renewal]
    omega
  · simp only [need, Next.debt, Loop.rounds, reduceCtorEq, if_false, Nat.sub_zero]
    rw [Nat.mul_comm (least + 1)]
    omega

theorem Next.Affordable.sequence {steps : List Step} {isNested : Bool}
    (h : Next.Affordable text stride reserve (fuel + 1) (.sequence steps isNested next) place) :
    Regex.Affordable text stride reserve fuel steps next place := by
  obtain ⟨hstride, hreserve, hfits⟩ := h.fits
  refine ⟨h.place_le, hstride, hreserve, hfits, ?_⟩
  have := h.need_le
  simp only [need, Next.debt] at this ⊢
  omega

/-- A repeat that begins a round is left with one less. -/
theorem Next.Affordable.round {l again : Loop} {isNested : Bool}
    (h : Next.Affordable text stride reserve (fuel + 1) (.loop l isNested next) place)
    (hbody : again.body = l.body) (hrounds : l.rounds place = again.rounds place + 1) :
    Regex.Affordable text stride reserve fuel l.body (.loop again isNested next) place := by
  obtain ⟨hstride, hreserve, hfits⟩ := h.fits
  have hneed := h.need_le
  have hone : l.rounds place * (strideOf l.body + 4) =
      again.rounds place * (strideOf l.body + 4) + (strideOf l.body + 4) := by
    rw [hrounds, Nat.add_mul, Nat.one_mul]
  simp only [need, Next.debt] at hneed
  refine ⟨h.place_le, ?_, hreserve, ⟨by rwa [hbody], by rwa [hbody], hfits⟩, ?_⟩
  · simp only [Next.renewal, hbody]
    omega
  · simp only [need, Next.debt, hbody]
    omega

theorem Next.Affordable.leave {l : Loop} {isNested : Bool}
    (h : Next.Affordable text stride reserve (fuel + 1) (.loop l isNested next) place) :
    next.Affordable text stride reserve fuel place := by
  refine ⟨h.place_le, h.fits.2.2, ?_⟩
  have := h.need_le
  simp only [need, Next.debt] at this ⊢
  omega

end Afford

/-- Ways that agree give the same outcome when they are tried one after another. -/
theorem tryEach_congr {α : Type} {putBack : Marks → Marks} {way way' : α → Marks → Outcome}
    {ways : List α} (h : ∀ a ∈ ways, ∀ m, way a m = way' a m) (m : Marks) :
    tryEach putBack way ways m = tryEach putBack way' ways m := by
  induction ways generalizing m with
  | nil => rfl
  | cons a rest ih =>
    rw [tryEach, tryEach, h a List.mem_cons_self m]
    split
    · rfl
    · exact ih (fun b hb => h b (List.mem_cons_of_mem _ hb)) _

section Bodies

variable {body body' : Nat → Marks → Outcome}
  (hbody : ∀ place m, place ≤ text.size → Within text place (body place m))
  (hsame : ∀ place m, place ≤ text.size → body place m = body' place m)

include hbody hsame

theorem matchTimes_congr (n place : Nat) (m : Marks) (hplace : place ≤ text.size) :
    matchTimes body n place m = matchTimes body' n place m := by
  induction n generalizing place m with
  | zero => rfl
  | succ n ih =>
    rw [matchTimes, matchTimes, ← hsame place m hplace]
    split
    · rfl
    · next stop m' hstop =>
      exact ih stop m' (hbody place m hplace stop (by rw [hstop])).2

theorem matchOften_congr (bound : Nat) (most : Option Nat) (fuel place : Nat) (m : Marks)
    (hplace : place ≤ text.size) :
    matchOften body bound most fuel place m = matchOften body' bound most fuel place m := by
  induction fuel generalizing place m with
  | zero => rfl
  | succ fuel ih =>
    rw [matchOften, matchOften, ← hsame place m hplace]
    split
    · rfl
    · split
      · rfl
      · next stop m' hstop =>
        split
        · rfl
        · exact ih stop m' (hbody place m hplace stop (by rw [hstop])).2

end Bodies

/-- Two amounts of fuel give the same outcome if both are enough. -/
structure Agree (text : Array Char) (fuel other : Nat) : Prop where
  run : ∀ {stride reserve steps next place} isNested m,
    Affordable text stride reserve (min fuel other) steps next place →
      run text fuel steps isNested next place m = run text other steps isNested next place m
  resume : ∀ {stride reserve next place} m,
    Next.Affordable text stride reserve (min fuel other) next place →
      resume text fuel next place m = resume text other next place m

/-- A step agrees if what comes after it does. -/
theorem Agree.step {fuel other : Nat} (h : Agree text fuel other) {step : Step} {rest : List Step}
    {next : Next} {place : Nat} (isNested : Bool) (m : Marks)
    (hafford : Affordable text stride reserve (min fuel other + 1) (step :: rest) next place) :
    Regex.run text (fuel + 1) (step :: rest) isNested next place m =
      Regex.run text (other + 1) (step :: rest) isNested next place m := by
  have hplace := hafford.place_le
  have hafter : ∀ later, place ≤ later → later ≤ text.size → ∀ m,
      Regex.run text fuel rest isNested next later m =
        Regex.run text other rest isNested next later m :=
    fun later hle hlater m => h.run isNested m (hafford.after hle hlater)
  have hhere := hafter place (Nat.le_refl place) hplace
  cases step with
  | one test =>
    simp only [Regex.run]
    split
    · next c hc =>
      obtain ⟨hlt, -⟩ := Array.getElem?_eq_some_iff.mp hc
      rw [hafter (place + 1) (Nat.le_succ place) hlt]
    · rfl
  | place p => simp only [Regex.run, hhere]
  | mark slot => exact hhere _
  | repeatOne greed least most test =>
    simp only [Regex.run]
    split
    · rfl
    · next hcount =>
      refine tryEach_congr (fun n hn m => ?_) m
      have hn := le_of_mem_tries hn (Nat.le_of_not_lt hcount)
      have hle := @countPassing_le text test
        (min (text.size - place) (most.getD (text.size - place))) place
      exact hafter (place + n) (Nat.le_add_right place n) (by omega) m
  | repeated greed least most body =>
    cases greed with
    | greedy => exact h.resume m (hafford.loop rfl rfl)
    | lazy => exact h.resume m (hafford.loop rfl rfl)
    | possessive =>
      have hbody : ∀ place m, place ≤ text.size →
          Within text place (Regex.run text fuel body true .done place m) :=
        fun place m hplace => (forward text fuel).run _ _ _ _ _ hplace
      have hsame : ∀ place m, place ≤ text.size → Regex.run text fuel body true .done place m =
          Regex.run text other body true .done place m :=
        fun place m hplace => h.run true m (hafford.apart body (Nat.le_refl _) hplace)
      simp only [Regex.run]
      rw [← matchTimes_congr hbody hsame least place m hplace]
      split
      · rfl
      · next stop m' hstop =>
        have htimes := matchTimes_within hbody least place m hplace stop (by rw [hstop])
        have hoften := matchOften_within hbody (text.size + 1) (most.map (· - least))
          (text.size + 1) stop m' htimes.2
        rw [← matchOften_congr hbody hsame _ _ _ stop m' htimes.2]
        exact hafter _ (Nat.le_trans htimes.1 hoften.1) hoften.2 _
  | branch alternatives =>
    simp only [Regex.run]
    refine tryEach_congr (fun steps hsteps m => ?_) m
    have hstride := strideOf_le_of_mem hsteps
    refine h.run isNested m (hafford.inside isNested ?_ (reserveOf_le_of_mem hsteps))
    simp only [Step.stride]
    omega
  | atomic body =>
    simp only [Regex.run]
    rw [h.run isNested m (hafford.apart body (Nat.le_refl _) hplace)]
    split
    · rfl
    · next stop m' hstop =>
      have hbody := (forward text other).run body isNested .done place m hplace stop (by rw [hstop])
      exact hafter stop hbody.1 hbody.2 m'
  | look back isNegated body =>
    have hbody := h.run isNested m (hafford.apart body (Nat.le_refl _)
      (show place - back ≤ text.size by omega))
    simp only [Regex.run, hhere, hbody]
  | reference group ignoreCase =>
    simp only [Regex.run]
    split
    · rfl
    · split
      · next hsame =>
        exact hafter _ (Nat.le_add_right place _) (isSameText_le hplace hsame) m
      · rfl
  | conditional group yes no =>
    simp only [Regex.run]
    refine h.run isNested m (hafford.inside isNested ?_ ?_)
    · simp only [Step.stride]
      split <;> omega
    · simp only [Step.reserve]
      split <;> omega
  | fail => rfl

/-- What remains agrees if its parts do. -/
theorem Agree.rest {fuel other : Nat} (h : Agree text fuel other) {next : Next} {place : Nat}
    (m : Marks) (hafford : next.Affordable text stride reserve (min fuel other + 1) place) :
    Regex.resume text (fuel + 1) next place m = Regex.resume text (other + 1) next place m := by
  cases next with
  | done => rfl
  | sequence steps isNested next => exact h.run isNested m hafford.sequence
  | loop l isNested next =>
    have hleave := fun m => h.resume m hafford.leave
    simp only [Regex.resume]
    split
    · next howed => exact h.run true m (hafford.round rfl (Loop.rounds_of_owed place howed))
    · next hfree =>
      -- A free round is begun only where the last one did not begin.
      have hround : (l.most.all (l.count < ·) && l.last ≠ some place) = true → ∀ m,
          Regex.run text fuel l.body true
              (.loop { l with count := l.count + 1, last := some place } isNested next) place m =
            Regex.run text other l.body true
              (.loop { l with count := l.count + 1, last := some place } isNested next) place
                m := by
        intro hgo m
        simp only [Bool.and_eq_true, decide_eq_true_eq] at hgo
        exact h.run true m (hafford.round rfl (Loop.rounds_of_free hfree hgo.2))
      by_cases hgo : (l.most.all (l.count < ·) && l.last ≠ some place) = true
      · simp only [hgo, if_true, hleave, hround hgo]
      · simp only [hgo, hleave, Bool.false_eq_true, if_false]

/-- Two amounts of fuel give the same outcome wherever both are enough. -/
theorem agree (text : Array Char) (fuel other : Nat) : Agree text fuel other := by
  induction fuel generalizing other with
  | zero =>
    refine ⟨fun isNested m h => absurd h.pos ?_, fun m h => absurd h.pos ?_⟩ <;> omega
  | succ fuel ih =>
    cases other with
    | zero => refine ⟨fun isNested m h => absurd h.pos ?_, fun m h => absurd h.pos ?_⟩ <;> omega
    | succ other =>
      have hmin : min (fuel + 1) (other + 1) = min fuel other + 1 := by omega
      refine ⟨?_, fun m h => (ih other).rest m (hmin ▸ h)⟩
      intro stride reserve steps next place isNested m h
      rw [hmin] at h
      cases steps with
      | nil => exact (ih other).resume m h.nil
      | cons step rest => exact (ih other).step isNested m h

/-- What the weight of steps bounds is enough for them, from any place. -/
theorem run_eq_of_weight_le {steps : List Step} {fuel other place : Nat} (isNested : Bool)
    (m : Marks) (hplace : place ≤ text.size) (hfuel : (text.size + 2) * weightOf steps ≤ fuel)
    (hother : (text.size + 2) * weightOf steps ≤ other) :
    run text fuel steps isNested .done place m = run text other steps isNested .done place m :=
  (agree text fuel other).run isNested m (affordable_apart hplace (by omega))

-- ════════════════════════════════════════════════════════════════════════
-- Matches without fuel
-- ════════════════════════════════════════════════════════════════════════

/-- An expression matches from one offset to another, however much fuel there is beyond some
amount. -/
def Matches (r : Regex) (text : Array Char) (start stop : Nat) : Prop :=
  ∃ enough, ∀ fuel, enough ≤ fuel →
    (run text fuel r.steps false .done start (.empty r.slots)).1 = some stop

theorem matchAt?_eq_some_iff {r : Regex} {start stop : Nat} (hstart : start ≤ text.size) :
    r.matchAt? text start = some stop ↔ r.Matches text start stop := by
  have hfuel : (text.size + 2) * weightOf r.steps ≤ (weightOf r.steps + 2) * (text.size + 2) := by
    rw [Nat.mul_comm]
    exact Nat.mul_le_mul_right _ (Nat.le_add_right _ 2)
  rw [matchAt?]
  constructor
  · intro h
    refine ⟨(weightOf r.steps + 2) * (text.size + 2), fun fuel hle => ?_⟩
    rw [run_eq_of_weight_le false _ hstart (Nat.le_trans hfuel hle) hfuel]
    exact h
  · rintro ⟨enough, h⟩
    have hmax := h _ (Nat.le_max_left enough ((weightOf r.steps + 2) * (text.size + 2)))
    rwa [run_eq_of_weight_le false _ hstart (Nat.le_trans hfuel (Nat.le_max_right _ _)) hfuel]
      at hmax

end ChecklistReview.Regex
