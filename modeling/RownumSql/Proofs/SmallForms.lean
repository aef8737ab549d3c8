import RownumSql.Text.Basic
import RownumSql.Text.LetterCase

/-!
# Small forms of texts

Most characters of ASCII are the small form of nothing but themselves and their capitals: all else
that has a small form leads elsewhere.  So a word of such characters in the small form of a text
stands in the text itself, in some letter case (`exists_of_infix_lowerCharsFrom`).
-/

namespace RownumSql.Text

/-! ## Characters -/

theorem mem_of_findShift {n : Nat} {spans : List CaseSpan} {d : Int}
    (h : findShift n spans = some d) :
    ∃ s ∈ spans, s.first ≤ n ∧ n ≤ s.last ∧ s.shift = d := by
  induction spans with
  | nil => cases h
  | cons s rest ih =>
    rw [findShift] at h
    split at h
    · next hspan =>
      simp only [Bool.and_eq_true, decide_eq_true_eq] at hspan
      exact ⟨s, List.mem_cons_self, hspan.1.1, hspan.1.2, Option.some.inj h⟩
    · obtain ⟨s', hs', hn⟩ := ih h
      exact ⟨s', List.mem_cons_of_mem s hs', hn⟩

/-- The ways in which a character has its small form: by the letters of ASCII, by one of the two
tables, or because it is its own. -/
theorem lowerChar_cases (c : Char) :
    (c.toNat < 0x80 ∧ lowerChar c = [c.toLower]) ∨
    (∃ p ∈ lowerSeveral, lowerChar c = p.2.map Char.ofNat) ∨
    (∃ s ∈ lowerSpans, s.first ≤ c.toNat ∧ c.toNat ≤ s.last ∧
      lowerChar c = [Char.ofNat ((c.toNat : Int) + s.shift).toNat]) ∨
    (0x80 ≤ c.toNat ∧ lowerChar c = [c]) := by
  by_cases hc : c.toNat < 0x80
  · exact .inl ⟨hc, lowerChar_ascii c hc⟩
  · rw [lowerChar, if_neg hc, mapCase]
    cases hseveral : lowerSeveral.lookup c.toNat with
    | some ns =>
      obtain ⟨before, after, heq, -⟩ := List.lookup_eq_some_iff.mp hseveral
      have hmem : (c.toNat, ns) ∈ lowerSeveral := by
        rw [heq]
        exact List.mem_append_right before List.mem_cons_self
      exact .inr (.inl ⟨_, hmem, rfl⟩)
    | none =>
      cases hshift : findShift c.toNat lowerSpans with
      | none => exact .inr (.inr (.inr ⟨Nat.le_of_not_lt hc, rfl⟩))
      | some d =>
        obtain ⟨s, hs, hfirst, hlast, rfl⟩ := mem_of_findShift hshift
        exact .inr (.inr (.inl ⟨s, hs, hfirst, hlast, rfl⟩))

theorem toNat_ofNat (n : Nat) : (Char.ofNat n).toNat = n ∨ (Char.ofNat n).toNat = 0 := by
  rw [Char.ofNat]
  by_cases h : n.isValidChar
  · rw [dif_pos h]
    exact .inl rfl
  · rw [dif_neg h]
    exact .inr rfl

/-- The only span that leads into ASCII is the Kelvin sign, to the letter K. -/
theorem lowerSpans_shift : ∀ s ∈ lowerSpans,
    0x80 ≤ (s.first : Int) + s.shift ∨ s.last = s.first ∧ (s.first : Int) + s.shift = 0x6B := by
  decide +kernel

/-- A character of ASCII that is the small form of nothing but itself and its capital.  It is not
`k`, which the Kelvin sign leads to, and not `i`, which a capital I with a point leads to. -/
def Steady (x : Char) : Prop :=
  0 < x.toNat ∧ x.toNat < 0x80 ∧ x.toNat ≠ 0x6B ∧ x.toNat ≠ 0x69

instance (x : Char) : Decidable (Steady x) := inferInstanceAs (Decidable (_ ∧ _))

theorem lowerSeveral_ofNat : ∀ p ∈ lowerSeveral, p.2 ≠ [] ∧ ∀ n ∈ p.2, ¬ Steady (Char.ofNat n) := by
  decide +kernel

theorem lowerChar_of_steady {c x : Char} (hx : Steady x) (h : x ∈ lowerChar c) :
    lowerChar c = [x] ∧ c.toLower = x := by
  obtain ⟨hpos, hascii, hkelvin, -⟩ := id hx
  obtain ⟨-, hc⟩ | ⟨p, hp, hc⟩ | ⟨s, hs, hfirst, hlast, hc⟩ | ⟨hbeyond, hc⟩ := lowerChar_cases c
  · rw [hc] at h ⊢
    have heq := List.mem_singleton.mp h
    exact ⟨congrArg (fun y => [y]) heq.symm, heq.symm⟩
  · rw [hc] at h
    obtain ⟨n, hn, rfl⟩ := List.mem_map.mp h
    exact absurd hx ((lowerSeveral_ofNat p hp).2 n hn)
  · rw [hc] at h
    have hspan := lowerSpans_shift s hs
    have hnat := toNat_ofNat ((c.toNat : Int) + s.shift).toNat
    rw [← List.mem_singleton.mp h] at hnat
    omega
  · rw [hc] at h
    rw [List.mem_singleton.mp h] at hascii
    omega

theorem lowerChar_ne_nil (c : Char) : lowerChar c ≠ [] := by
  obtain ⟨-, hc⟩ | ⟨p, hp, hc⟩ | ⟨s, hs, -, -, hc⟩ | ⟨-, hc⟩ := lowerChar_cases c
  · exact hc ▸ List.cons_ne_nil _ _
  · rw [hc, Ne, List.map_eq_nil_iff]
    exact (lowerSeveral_ofNat p hp).1
  · exact hc ▸ List.cons_ne_nil _ _
  · exact hc ▸ List.cons_ne_nil _ _

/-- Capitals are moved by the distance between the letter cases, and nothing else is. -/
theorem toLower_cases (c : Char) : c.toLower = c ∨
    65 ≤ c.toNat ∧ c.toNat ≤ 90 ∧ c.toLower.toNat = c.toNat + 32 := by
  unfold Char.toLower
  split
  · next hcapital =>
    have hle : (65 : Nat) ≤ c.val.toNat ∧ c.val.toNat ≤ 90 := hcapital
    refine .inr ⟨hle.1, hle.2, ?_⟩
    show (c.val + 32).toNat = c.val.toNat + 32
    rw [UInt32.toNat_add]
    show (c.val.toNat + 32) % 2 ^ 32 = _
    omega
  · exact .inl rfl

theorem eq_blank_of_toLower {c : Char} (h : c.toLower = ' ') : c = ' ' := by
  obtain hsame | ⟨hcapital, -, hnat⟩ := toLower_cases c
  · exact hsame.symm.trans h
  · rw [h] at hnat
    change 32 = c.toNat + 32 at hnat
    omega

theorem toNat_lt_of_toLower {c : Char} (h : c.toLower.toNat < 0x80) : c.toNat < 0x80 := by
  obtain hsame | ⟨-, hcapital, -⟩ := toLower_cases c
  · exact hsame ▸ h
  · omega

theorem toLower_of_isBlank {c : Char} (h : isBlank c) : c.toLower = c := by
  obtain hsame | ⟨hfirst, hlast, -⟩ := toLower_cases c
  · exact hsame
  · simp only [isBlank, Bool.or_eq_true, Bool.and_eq_true, decide_eq_true_eq] at h
    omega

/-! ## Texts -/

/-- A character and what it leaves of the small form of a text. -/
theorem lowerCharsFrom_cons (inWord : Bool) (c : Char) (cs : List Char) : ∃ small inWord',
    lowerCharsFrom inWord (c :: cs) = small ++ lowerCharsFrom inWord' cs ∧ small ≠ [] ∧
    ∀ x ∈ small, Steady x → small = [x] ∧ c.toLower = x := by
  rw [lowerCharsFrom]
  by_cases hsigma : c = 'Σ'
  · subst hsigma
    refine ⟨_, _, rfl, ?_⟩
    rw [if_pos rfl]
    have hsmall (y : Char) (hy : ¬ Steady y) :
        [y] ≠ [] ∧ ∀ x ∈ [y], Steady x → [y] = [x] ∧ 'Σ'.toLower = x :=
      ⟨List.cons_ne_nil y [], List.forall_mem_singleton.mpr fun h => absurd h hy⟩
    split
    · exact hsmall 'ς' (by decide)
    · exact hsmall 'σ' (by decide)
  · refine ⟨_, _, rfl, ?_⟩
    rw [if_neg hsigma]
    exact ⟨lowerChar_ne_nil c, fun x hsmall hx => lowerChar_of_steady hx hsmall⟩

/-- The small form of ASCII in front of a text. -/
theorem lowerCharsFrom_ascii {w : List Char} (hw : w.all (·.toNat < 0x80)) (inWord : Bool)
    (cs : List Char) : ∃ inWord',
    lowerCharsFrom inWord (w ++ cs) = w.map Char.toLower ++ lowerCharsFrom inWord' cs := by
  induction w generalizing inWord with
  | nil => exact ⟨inWord, rfl⟩
  | cons c w ih =>
    rw [List.all_cons, Bool.and_eq_true, decide_eq_true_eq] at hw
    obtain ⟨hc, hw⟩ := hw
    have hsigma : c ≠ 'Σ' := by
      rintro rfl
      exact absurd hc (by decide)
    obtain ⟨inWord', hrest⟩ := ih hw (if isCaseIgnorable c then inWord else isCased c)
    refine ⟨inWord', ?_⟩
    rw [List.cons_append, lowerCharsFrom, if_neg hsigma, lowerChar_ascii c hc, hrest]
    rfl

/-- What the small form of a text begins with, the text begins with, in some letter case. -/
theorem exists_of_prefix_lowerCharsFrom {part cs : List Char} {inWord : Bool}
    (hpart : ∀ x ∈ part, Steady x) (h : part <+: lowerCharsFrom inWord cs) :
    ∃ w rest, cs = w ++ rest ∧ w.map Char.toLower = part := by
  induction part generalizing cs inWord with
  | nil => exact ⟨[], cs, rfl, rfl⟩
  | cons x part ih =>
    obtain ⟨hx, hpart⟩ := List.forall_mem_cons.mp hpart
    cases cs with
    | nil => cases List.prefix_nil.mp h
    | cons c cs =>
      obtain ⟨small, inWord', hsmall, hne, hmem⟩ := lowerCharsFrom_cons inWord c cs
      obtain ⟨y, ys, rfl⟩ := List.exists_cons_of_ne_nil hne
      rw [hsmall, List.cons_append, List.cons_prefix_cons] at h
      obtain ⟨rfl, htail⟩ := h
      obtain ⟨hone, hlower⟩ := hmem x List.mem_cons_self hx
      rw [(List.cons.inj hone).2, List.nil_append] at htail
      obtain ⟨w, rest, rfl, hw⟩ := ih hpart htail
      exact ⟨c :: w, rest, rfl, by rw [List.map_cons, hlower, hw]⟩

/-- A part of the small form of a text stands in the text, in some letter case. -/
theorem exists_of_infix_lowerCharsFrom {part cs : List Char} {inWord : Bool}
    (hpart : ∀ x ∈ part, Steady x) (h : part <:+: lowerCharsFrom inWord cs) :
    ∃ before w after, cs = before ++ (w ++ after) ∧ w.map Char.toLower = part := by
  cases part with
  | nil => exact ⟨[], [], cs, rfl, rfl⟩
  | cons first part =>
    induction cs generalizing inWord with
    | nil => cases List.infix_nil.mp h
    | cons c cs ih =>
      obtain ⟨small, inWord', hsmall, -, hmem⟩ := lowerCharsFrom_cons inWord c cs
      obtain ⟨a, b, hab⟩ := h
      rw [hsmall, List.append_assoc] at hab
      obtain ⟨rest, ha, hcs⟩ | ⟨word, hs, hword⟩ := List.append_eq_append_iff.mp hab.symm
      · -- the part begins behind this character
        rw [← List.append_assoc] at hcs
        obtain ⟨before, w, after, rfl, hw⟩ := ih ⟨rest, b, hcs.symm⟩
        exact ⟨c :: before, w, after, rfl, hw⟩
      · cases word with
        | nil =>
          obtain ⟨before, w, after, rfl, hw⟩ := ih ⟨[], b, hword⟩
          exact ⟨c :: before, w, after, rfl, hw⟩
        | cons x word =>
          -- the character is the first of the part
          obtain rfl : first = x := (List.cons.inj hword).1
          have hxsmall : first ∈ small := by
            rw [hs]
            exact List.mem_append_right a List.mem_cons_self
          obtain ⟨hone, -⟩ := hmem first hxsmall (hpart first List.mem_cons_self)
          rw [hs] at hone
          have ha : a = [] := by
            cases a with
            | nil => rfl
            | cons y ys => exact absurd (congrArg List.length hone) (by simp)
          rw [ha, List.nil_append] at hs
          have hprefix : first :: part <+: lowerCharsFrom inWord (c :: cs) :=
            ⟨b, by rw [hword, hsmall, hs]⟩
          obtain ⟨w, after, heq, hw⟩ := exists_of_prefix_lowerCharsFrom hpart hprefix
          exact ⟨[], w, after, heq, hw⟩

/-- The small form of a text ends with that of its end. -/
theorem lowerCharsFrom_append (inWord : Bool) (a b : List Char) : ∃ front inWord',
    lowerCharsFrom inWord (a ++ b) = front ++ lowerCharsFrom inWord' b := by
  induction a generalizing inWord with
  | nil => exact ⟨[], inWord, rfl⟩
  | cons c a ih =>
    obtain ⟨small, inWord', hsmall, -, -⟩ := lowerCharsFrom_cons inWord c (a ++ b)
    obtain ⟨front, inWord'', hrest⟩ := ih inWord'
    exact ⟨small ++ front, inWord'', by rw [List.cons_append, hsmall, hrest, List.append_assoc]⟩

end RownumSql.Text
