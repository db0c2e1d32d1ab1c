import Mathlib.Algebra.Order.Ring.Int
import Mathlib.Tactic.Ring

/-!
# Day labels

The conversation pages name the day of a message by the number of whole days between its local
midnight and now, where a day is 24 hours and the quotient is truncated towards zero.
-/

namespace EduConnect.Messagerie

/-- `Duration(days: 1)` in microseconds. -/
abbrev vingtQuatreHeures : ℤ := 86400000000

/-- The local time of a device.  Instants are microseconds since the epoch; the offset may change at
any of them. -/
structure ZoneLocale where
  /-- Local time minus universal time. -/
  decalage : ℤ → ℤ
  /-- The instant `DateTime(y, m, d)` gives for the calendar day of that number. -/
  minuit : ℤ → ℤ
  /-- It is a midnight of that day where there is one. -/
  minuit_local : ∀ j, (∃ t, t + decalage t = vingtQuatreHeures * j) →
    minuit j + decalage (minuit j) = vingtQuatreHeures * j

namespace ZoneLocale

variable (z : ZoneLocale)

/-- The number of the local calendar day. -/
def jour (t : ℤ) : ℤ := (t + z.decalage t) / vingtQuatreHeures

/-- The local time of day. -/
def heure (t : ℤ) : ℤ := (t + z.decalage t) % vingtQuatreHeures

/-- How far the clocks have been put forward since the start of the day `j`. -/
def avance (now j : ℤ) : ℤ := z.decalage now + z.minuit j - vingtQuatreHeures * j

theorem heure_bounds (t : ℤ) : 0 ≤ z.heure t ∧ z.heure t < vingtQuatreHeures := by
  unfold heure vingtQuatreHeures
  omega

/-- The time passed since the start of the day `j`. -/
theorem sub_minuit (now j : ℤ) :
    now - z.minuit j =
      vingtQuatreHeures * (z.jour now - j) + (z.heure now - z.avance now j) := by
  unfold jour heure avance vingtQuatreHeures
  omega

end ZoneLocale

/-! ## The label -/

/-- `Aujourd'hui`, `Hier` or `DateFormat('dd MMM yyyy').format(date)`, which shows the day. -/
inductive NomDuJour where
  | aujourdhui
  | hier
  | formatee (jour : ℤ)
  deriving DecidableEq

/-- `_formatDayLabel` of the three pages. -/
def formatDayLabel (z : ZoneLocale) (now date : ℤ) : NomDuJour :=
  let diff := (now - z.minuit (z.jour date)).tdiv vingtQuatreHeures
  if diff = 0 then .aujourdhui
  else if diff = 1 then .hier
  else .formatee (z.jour date)

/-- The label follows the calendar. -/
structure EtiquetteExacte (z : ZoneLocale) (now date : ℤ) : Prop where
  aujourdhui : formatDayLabel z now date = .aujourdhui ↔ z.jour date = z.jour now
  hier : formatDayLabel z now date = .hier ↔ z.jour date = z.jour now - 1
  formatee : formatDayLabel z now date = .formatee (z.jour date) ↔
    z.jour date ≠ z.jour now ∧ z.jour date ≠ z.jour now - 1

/-- `inDays`. -/
theorem tdiv_vingtQuatreHeures (x : ℤ) :
    x.tdiv vingtQuatreHeures =
      if 0 ≤ x then x / vingtQuatreHeures else -((-x) / vingtQuatreHeures) := by
  by_cases hx : 0 ≤ x
  · rw [if_pos hx, Int.tdiv_eq_ediv_of_nonneg hx]
  · have hneg : 0 ≤ -x := by omega
    rw [if_neg hx, ← Int.tdiv_eq_ediv_of_nonneg hneg, Int.neg_tdiv, neg_neg]

theorem inDays_eq_zero_iff {x : ℤ} :
    x.tdiv vingtQuatreHeures = 0 ↔ -vingtQuatreHeures < x ∧ x < vingtQuatreHeures := by
  rw [tdiv_vingtQuatreHeures]
  unfold vingtQuatreHeures
  split_ifs <;> omega

theorem inDays_eq_one_iff {x : ℤ} :
    x.tdiv vingtQuatreHeures = 1 ↔ vingtQuatreHeures ≤ x ∧ x < 2 * vingtQuatreHeures := by
  rw [tdiv_vingtQuatreHeures]
  unfold vingtQuatreHeures
  split_ifs <;> omega

/-- The time of day of now, less what the clocks were put forward since the start of the message's
day, against the number of calendar days between the two. -/
structure HeuresDuJour (z : ZoneLocale) (now date : ℤ) : Prop where
  memeJour : z.jour now = z.jour date →
    -vingtQuatreHeures < z.heure now - z.avance now (z.jour date) ∧
      z.heure now - z.avance now (z.jour date) < vingtQuatreHeures
  veille : z.jour now = z.jour date + 1 →
    0 ≤ z.heure now - z.avance now (z.jour date) ∧
      z.heure now - z.avance now (z.jour date) < vingtQuatreHeures
  autreJour : z.jour now ≠ z.jour date → z.jour now ≠ z.jour date + 1 →
    vingtQuatreHeures * (2 - (z.jour now - z.jour date)) ≤
        z.heure now - z.avance now (z.jour date) ∨
      z.heure now - z.avance now (z.jour date) ≤
        vingtQuatreHeures * (z.jour date - z.jour now - 1)

theorem formatDayLabel_eq_aujourdhui (z : ZoneLocale) (now date : ℤ) :
    formatDayLabel z now date = .aujourdhui ↔
      (now - z.minuit (z.jour date)).tdiv vingtQuatreHeures = 0 := by
  simp only [formatDayLabel]
  split_ifs with h₀ h₁ <;> simp [h₀]

theorem formatDayLabel_eq_hier (z : ZoneLocale) (now date : ℤ) :
    formatDayLabel z now date = .hier ↔
      (now - z.minuit (z.jour date)).tdiv vingtQuatreHeures = 1 := by
  simp only [formatDayLabel]
  split_ifs with h₀ h₁
  · simp [h₀]
  · simp [h₁]
  · simp [h₁]

theorem formatDayLabel_eq_formatee {z : ZoneLocale} {now date : ℤ} :
    formatDayLabel z now date = .formatee (z.jour date) ↔
      formatDayLabel z now date ≠ .aujourdhui ∧ formatDayLabel z now date ≠ .hier := by
  simp only [formatDayLabel]
  split_ifs <;> simp

/-- The label is the calendar's exactly if the hours that were added or left out do not carry the
quotient over a multiple of 24 hours. -/
theorem etiquetteExacte_iff (z : ZoneLocale) (now date : ℤ) :
    EtiquetteExacte z now date ↔ HeuresDuJour z now date := by
  have htemps := z.sub_minuit now (z.jour date)
  have haujourdhui := formatDayLabel_eq_aujourdhui z now date
  have hhier := formatDayLabel_eq_hier z now date
  rw [inDays_eq_zero_iff, htemps] at haujourdhui
  rw [inDays_eq_one_iff, htemps] at hhier
  unfold vingtQuatreHeures at haujourdhui hhier
  constructor
  · intro h
    have h₀ := haujourdhui.symm.trans h.aujourdhui
    have h₁ := hhier.symm.trans h.hier
    refine ⟨fun hjour => ?_, fun hjour => ?_, fun hjour hjour' => ?_⟩
    all_goals unfold vingtQuatreHeures
    · have hdedans := h₀.mpr hjour.symm
      omega
    · have hdedans := h₁.mpr (by omega)
      omega
    · have hdehors := mt h₀.mp (Ne.symm hjour)
      have hdehors' := mt h₁.mp (by omega)
      omega
  · rintro ⟨hmeme, hveille, hautre⟩
    unfold vingtQuatreHeures at hmeme hveille hautre
    have h₀ : formatDayLabel z now date = .aujourdhui ↔ z.jour date = z.jour now := by
      rw [haujourdhui]
      omega
    have h₁ : formatDayLabel z now date = .hier ↔ z.jour date = z.jour now - 1 := by
      rw [hhier]
      omega
    refine ⟨h₀, h₁, ?_⟩
    rw [formatDayLabel_eq_formatee, Ne, Ne, h₀, h₁]

/-- While the clocks are not changed, only a message of tomorrow gets another day's label, and not
at midnight. -/
theorem etiquetteExacte_sans_changement {z : ZoneLocale} {now date : ℤ}
    (h : z.avance now (z.jour date) = 0) :
    EtiquetteExacte z now date ↔ ¬(z.jour date = z.jour now + 1 ∧ z.heure now ≠ 0) := by
  rw [etiquetteExacte_iff]
  have hheure := z.heure_bounds now
  unfold vingtQuatreHeures at hheure
  constructor
  · rintro ⟨-, -, hautre⟩ ⟨hdemain, hne⟩
    have hloin := hautre (by omega) (by omega)
    unfold vingtQuatreHeures at hloin
    omega
  · intro hdemain
    refine ⟨fun hjour => ?_, fun hjour => ?_, fun hjour hjour' => ?_⟩
    all_goals unfold vingtQuatreHeures
    all_goals omega

/-- Greenwich. -/
def greenwich : ZoneLocale where
  decalage _ := 0
  minuit j := vingtQuatreHeures * j
  minuit_local _ _ := Int.add_zero _

/-- An hour ahead of Greenwich until noon of day 0, then at Greenwich's time: day 0 has 25 hours. -/
def heureDHiver : ZoneLocale where
  decalage t := if t < 43200000000 then 3600000000 else 0
  minuit j := if j ≤ 0 then vingtQuatreHeures * j - 3600000000 else vingtQuatreHeures * j
  minuit_local j _ := by
    unfold vingtQuatreHeures
    split_ifs <;> omega

/-- At one minute to midnight a message of ten past midnight is of today; in the 25th hour of a day
its own messages are of yesterday. -/
theorem not_etiquetteExacte : ¬ EtiquetteExacte greenwich 86340000000 87000000000 ∧
    ¬ EtiquetteExacte heureDHiver 84600000000 0 := by
  constructor
  · intro h
    exact absurd (h.aujourdhui.mp (by decide)) (by decide)
  · intro h
    exact absurd (h.hier.mp (by decide)) (by decide)

end EduConnect.Messagerie
