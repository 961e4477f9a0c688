import Scorebook.Weapon
/-!
# Names of weapons without their decoration

Of the name of a weapon only the bare name matters, its ASCII letters in lower case and its digits (`Weapon.bareName`):
blanks and signs may stand anywhere, and one `weapon_` in front (`Weapon.ofName_eq_of_bareName_eq`).  A second `weapon_`
belongs to the name, so a name that has one already is set apart (`Weapon.IsDecorated`).
-/
namespace Scorebook

namespace Text

/-! ## Letters and digits -/

theorem toNat_toLower (c : Char) :
    c.toLower.toNat = if 65 ≤ c.toNat ∧ c.toNat ≤ 90 then c.toNat + 32 else c.toNat := by
  have hupper : (c.val ≥ 'A'.val ∧ c.val ≤ 'Z'.val) ↔ 65 ≤ c.toNat ∧ c.toNat ≤ 90 := by
    simp [UInt32.le_iff_toNat_le, ← Char.toNat_val]
  unfold Char.toLower
  by_cases h : c.val ≥ 'A'.val ∧ c.val ≤ 'Z'.val
  · have hn := hupper.1 h
    rw [dif_pos h, if_pos hn, ← Char.toNat_val, UInt32.toNat_add]
    simp
    omega
  · rw [dif_neg h, if_neg (fun hn => h (hupper.2 hn))]

theorem isAlphanum_toLower (c : Char) : c.toLower.isAlphanum = c.isAlphanum := by
  rw [Bool.eq_iff_iff, isAlphanum_iff, isAlphanum_iff, toNat_toLower]
  split <;> omega

/-! ## What is kept of a text -/

/-- Lowering takes no letter or digit away and adds none. -/
theorem filter_lower (cs : List Char) : (lower cs).filter Char.isAlphanum = lower (cs.filter Char.isAlphanum) := by
  have hsame : Char.isAlphanum ∘ Char.toLower = Char.isAlphanum := funext isAlphanum_toLower
  rw [lower, lower, List.filter_map, hsame]

theorem filter_trimLeft : ∀ cs : List Char, (trimLeft cs).filter Char.isAlphanum = cs.filter Char.isAlphanum
  | [] => rfl
  | c :: cs => by
    by_cases hblank : isBlank c = true
    · have hsign : ¬ c.isAlphanum = true := by simp [isAlphanum_of_isBlank hblank]
      rw [trimLeft, List.dropWhile_cons_of_pos hblank, List.filter_cons_of_neg hsign]
      exact filter_trimLeft cs
    · rw [trimLeft, List.dropWhile_cons_of_neg hblank]

/-- Trimming takes no letter or digit away. -/
theorem filter_trim (cs : List Char) : (trim cs).filter Char.isAlphanum = cs.filter Char.isAlphanum := by
  rw [trim, List.filter_reverse, filter_trimLeft, List.filter_reverse, List.reverse_reverse, filter_trimLeft]

theorem trimLeft_append {start : List Char} (hne : start ≠ []) (h : trimLeft start = start) (cs : List Char) :
    trimLeft (start ++ cs) = start ++ cs := by
  unfold trimLeft at h ⊢
  rw [List.dropWhile_append, h, if_neg (by simpa using hne)]

/-- After a start that has no blank at its ends only the right end is trimmed. -/
theorem trim_append {start : List Char} (hne : start ≠ []) (hleft : trimLeft start = start)
    (hright : trimLeft start.reverse = start.reverse) (cs : List Char) :
    trim (start ++ cs) = start ++ (trimLeft cs.reverse).reverse := by
  have hends : trimLeft (cs.reverse ++ start.reverse) = trimLeft cs.reverse ++ start.reverse := by
    unfold trimLeft at hright ⊢
    rw [List.dropWhile_append, hright]
    -- Where nothing but blanks follows the start, trimming goes as far as the start.
    split
    · next hempty => rw [List.isEmpty_iff.1 hempty, List.nil_append]
    · rfl
  rw [trim, trimLeft_append hne hleft, List.reverse_append, hends, List.reverse_append, List.reverse_reverse]

end Text

namespace Weapon

/-! ## Bare names -/

/-- The ASCII letters of a name, in lower case, and its digits. -/
def bareName (s : String) : List Char := Text.lower (s.toList.filter Char.isAlphanum)

/-- A name with a `weapon_` in front of it, in letters of either case and after blanks. -/
def IsDecorated (s : String) : Prop := "weapon_".toList <+: Text.lower (Text.trim s.toList)

instance (s : String) : Decidable (IsDecorated s) := inferInstanceAs (Decidable (_ <+: _))

/-- A bare name means a weapon: it is one of the words for it, or begins as the kinds of knife do. -/
def IsMeantBy (w : Weapon) (cs : List Char) : Prop :=
  (∃ word ∈ w.words, word.toList = cs) ∨ w = .knife ∧ "knife".toList <+: cs

theorem dropStart_append (start cs : List Char) : dropStart start (start ++ cs) = cs := by
  rw [dropStart, if_pos (List.isPrefixOf_iff_prefix.2 (List.prefix_append start cs)), List.drop_left]

theorem dropStart_of_not_prefix {start cs : List Char} (h : ¬ start <+: cs) : dropStart start cs = cs := by
  rw [dropStart, if_neg (fun hp => h (List.isPrefixOf_iff_prefix.1 hp))]

/-- The name that is compared is the bare one. -/
theorem normalName_of_not_isDecorated {s : String} (h : ¬ IsDecorated s) : normalName s.toList = bareName s := by
  rw [normalName, dropStart_of_not_prefix h, Text.filter_lower, Text.filter_trim, bareName]

/-- One `weapon_` is taken off, whatever follows it. -/
theorem normalName_decorated (s : String) : normalName ("weapon_" ++ s).toList = bareName s := by
  have htrim : Text.trim ("weapon_" ++ s).toList = "weapon_".toList ++ (Text.trimLeft s.toList.reverse).reverse := by
    rw [String.toList_append]
    exact Text.trim_append (by decide) (by decide) (by decide) s.toList
  have hlower : Text.lower "weapon_".toList = "weapon_".toList := by decide
  rw [normalName, htrim, Text.lower, List.map_append, ← Text.lower, ← Text.lower, hlower, dropStart_append,
    Text.filter_lower, List.filter_reverse, Text.filter_trimLeft, List.filter_reverse, List.reverse_reverse, bareName]

/-! ## The weapon that is meant -/

/-- No word names two weapons, nor a knife of another kind. -/
theorem ofNormalName_word : ∀ w ∈ all, ∀ word ∈ w.words, ofNormalName word.toList = w := by decide +kernel

/-- A name is read as a weapon of the catalogue if and only if it means that weapon. -/
theorem ofNormalName_eq_iff {w : Weapon} (hw : w ∈ all) {cs : List Char} : ofNormalName cs = w ↔ w.IsMeantBy cs := by
  constructor
  · intro h
    unfold ofNormalName at h
    split at h
    · next hknife => exact .inr ⟨h.symm, List.isPrefixOf_iff_prefix.1 hknife⟩
    · cases hfind : all.find? (fun w => w.words.any (fun word => word.toList == cs)) with
      | none =>
        rw [hfind] at h
        subst h
        exact absurd hw (by decide)
      | some found =>
        rw [hfind] at h
        obtain rfl : found = w := h
        have hany := List.find?_some hfind
        simp only [List.any_eq_true, beq_iff_eq] at hany
        exact .inl hany
  · rintro (⟨word, hword, rfl⟩ | ⟨rfl, hknife⟩)
    · exact ofNormalName_word w hw word hword
    · rw [ofNormalName, if_pos (List.isPrefixOf_iff_prefix.2 hknife)]

/-- **A weapon is known by its bare name.**  Names that are not decorated and have one bare name are one weapon, and
`weapon_` in front makes no difference.  It is the weapon that the bare name means: a knife, if it begins with `knife`. -/
theorem ofName_eq_of_bareName_eq {s s' : String} (h : ¬ IsDecorated s) (h' : ¬ IsDecorated s')
    (hbare : bareName s' = bareName s) :
    ofName s' = ofName s ∧ ofName ("weapon_" ++ s) = ofName s ∧
      ("knife".toList <+: bareName s → ofName s = .knife) ∧
      ∀ w ∈ all, ofName s = w ↔ w.IsMeantBy (bareName s) := by
  have hname : ofName s = ofNormalName (bareName s) := congrArg ofNormalName (normalName_of_not_isDecorated h)
  have hname' : ofName s' = ofNormalName (bareName s') := congrArg ofNormalName (normalName_of_not_isDecorated h')
  have hdecorated : ofName ("weapon_" ++ s) = ofNormalName (bareName s) :=
    congrArg ofNormalName (normalName_decorated s)
  refine ⟨by rw [hname', hbare, hname], by rw [hdecorated, hname], fun hknife => ?_, fun w hw => ?_⟩
  · rw [hname]
    exact (ofNormalName_eq_iff (by decide)).2 (.inr ⟨rfl, hknife⟩)
  · rw [hname]
    exact ofNormalName_eq_iff hw

/-- A kind of knife, with signs, blanks and letters of either case. -/
theorem ofName_eq_of_bareName_eq_of_knife :
    let s := "Knife (Karambit)"
    let s' := "  KNIFE_karambit "
    ¬ IsDecorated s ∧ ¬ IsDecorated s' ∧ bareName s' = bareName s ∧ "knife".toList <+: bareName s ∧
      ofName s' = .knife ∧ ofName ("weapon_" ++ s) = .knife ∧ IsMeantBy .knife (bareName s) := by
  intro s s'
  have h : ¬ IsDecorated s := by decide +kernel
  have h' : ¬ IsDecorated s' := by decide +kernel
  have hbare : bareName s' = bareName s := by decide +kernel
  have hprefix : "knife".toList <+: bareName s := by decide +kernel
  obtain ⟨hsame, hdecorated, hknife, hmeant⟩ := ofName_eq_of_bareName_eq h h' hbare
  have hs : ofName s = .knife := hknife hprefix
  exact ⟨h, h', hbare, hprefix, hsame.trans hs, hdecorated.trans hs, (hmeant .knife (by decide)).1 hs⟩

end Weapon

end Scorebook
