import ModPack.Proofs.LoadedExports

/-!
# Rules for names, one by one

What it is to break a shared rule is told of the characters of a name alone, so that it does not
matter for the rule which others are checked before it. A name is refused for the first rule that it
breaks in their order. That a name is only underscores never decides whether it is accepted, since
such a name also ends in one; but it decides what is told. The names that the kinds of check accept
lie in each other: package names in the names of dependencies, apart from the package's own, and
these in the names of exports. Main statements: `fault?_eq_some`, `fault?_eq_none` and
`checks_exact`.
-/
namespace ModPack

namespace Name

variable {c : Char} {name current : String} {fault : Fault} {error : NameError}

/-! ## Breaking a rule -/

/-- The ASCII digits. -/
def IsDigit (c : Char) : Prop :=
  '0' ≤ c ∧ c ≤ '9'

/-- The characters that names are made of: ASCII letters and digits, and the underscore. -/
def InAlphabet (c : Char) : Prop :=
  ('A' ≤ c ∧ c ≤ 'Z') ∨ ('a' ≤ c ∧ c ≤ 'z') ∨ IsDigit c ∨ c = '_'

instance : DecidablePred IsDigit := fun c => inferInstanceAs (Decidable ('0' ≤ c ∧ c ≤ '9'))

instance : DecidablePred InAlphabet := fun c => inferInstanceAs
  (Decidable (('A' ≤ c ∧ c ≤ 'Z') ∨ ('a' ≤ c ∧ c ≤ 'z') ∨ IsDigit c ∨ c = '_'))

/-- The name breaks the rule, whatever other rules it breaks. -/
def Fault.Breaks (name : String) : Fault → Prop
  | tooLong => 40 < name.length
  | tooShort => name.length < 1
  | badCharacter => ∃ c ∈ name.toList, ¬ InAlphabet c
  | leadingDigit => ∃ c ∈ name.toList.head?, IsDigit c
  | onlyUnderscores => ∀ c ∈ name.toList, c = '_'
  | trailingUnderscore => name.toList.getLast? = some '_'

instance (name : String) : DecidablePred (Fault.Breaks name)
  | .tooLong => inferInstanceAs (Decidable (40 < name.length))
  | .tooShort => inferInstanceAs (Decidable (name.length < 1))
  | .badCharacter => inferInstanceAs (Decidable (∃ c ∈ name.toList, ¬ InAlphabet c))
  | .leadingDigit => inferInstanceAs (Decidable (∃ c ∈ name.toList.head?, IsDigit c))
  | .onlyUnderscores => inferInstanceAs (Decidable (∀ c ∈ name.toList, c = '_'))
  | .trailingUnderscore => inferInstanceAs (Decidable (name.toList.getLast? = some '_'))

/-- The shared rules in their order. -/
def Fault.inOrder : List Fault :=
  [tooLong, tooShort, badCharacter, leadingDigit, onlyUnderscores, trailingUnderscore]

/-- The rule is the first one in the order that the name breaks. -/
def FirstBroken (name : String) (fault : Fault) : Prop :=
  fault.Breaks name ∧ ∃ before after, Fault.inOrder = before ++ fault :: after ∧
    ∀ earlier ∈ before, ¬ earlier.Breaks name

/-- A name that keeps the shared rules. -/
structure Proper (name : String) : Prop where
  length_pos : 1 ≤ name.length
  length_le : name.length ≤ 40
  chars : ∀ c ∈ name.toList, InAlphabet c
  first : ∀ c ∈ name.toList.head?, ¬ IsDigit c
  last : ∀ c ∈ name.toList.getLast?, c ≠ '_'

/-! ## The checks of the rules -/

theorem isDigit_iff : c.isDigit = true ↔ IsDigit c := by
  simp [Char.isDigit, IsDigit, Char.le_def]

theorem isNameChar_iff : isNameChar c = true ↔ InAlphabet c := by
  have hupper : c.isUpper = true ↔ 'A' ≤ c ∧ c ≤ 'Z' := decide_eq_true_iff
  have hlower : c.isLower = true ↔ 'a' ≤ c ∧ c ≤ 'z' :=
    Bool.and_eq_true_iff.trans (and_congr decide_eq_true_iff decide_eq_true_iff)
  have halpha : c.isAlpha = true ↔ c.isUpper = true ∨ c.isLower = true := Bool.or_eq_true_iff
  simp only [isNameChar, Char.isAlphanum, halpha, Bool.or_eq_true, hupper, hlower, isDigit_iff,
    decide_eq_true_eq, InAlphabet, or_assoc]

theorem isEmpty_iff_breaks : name.isEmpty = true ↔ Fault.tooShort.Breaks name := by
  rw [String.isEmpty_iff, ← String.length_eq_zero_iff, Fault.Breaks]
  omega

theorem not_all_iff_breaks :
    (!name.toList.all isNameChar) = true ↔ Fault.badCharacter.Breaks name := by
  simp [Fault.Breaks, ← isNameChar_iff]

theorem beginsWith_isDigit_iff_breaks :
    beginsWith Char.isDigit name = true ↔ Fault.leadingDigit.Breaks name := by
  unfold beginsWith Fault.Breaks
  cases name.toList.head? <;> simp [isDigit_iff]

/-- Among the characters of names only the underscore is no letter and no digit. -/
theorem not_any_iff_breaks (hchars : ¬ Fault.badCharacter.Breaks name) :
    (!name.toList.any Char.isAlphanum) = true ↔ Fault.onlyUnderscores.Breaks name := by
  have hall : name.toList.all isNameChar = true := by
    simpa using mt not_all_iff_breaks.1 hchars
  simp only [Bool.not_eq_true', List.any_eq_false, Fault.Breaks]
  refine forall₂_congr fun c hc => ?_
  have hname : c.isAlphanum = true ∨ c = '_' := by
    simpa [isNameChar] using List.all_eq_true.1 hall c hc
  constructor
  · exact hname.resolve_left
  · rintro rfl
    decide

theorem endsWithUnderscore_iff_breaks :
    endsWithUnderscore name = true ↔ Fault.trailingUnderscore.Breaks name :=
  decide_eq_true_iff

/-! ## The first rule that is broken -/

/-- The checks go through the rules in order, each as if it were the only one. -/
theorem fault?_eq_find? (name : String) :
    fault? name = Fault.inOrder.find? fun fault => decide (fault.Breaks name) := by
  have hhere {fault : Fault} (rest : List Fault) (h : fault.Breaks name) :
      some fault = (fault :: rest).find? fun fault => decide (fault.Breaks name) := by
    simp [h]
  have hlater {fault : Fault} (rest : List Fault) (h : ¬ fault.Breaks name) :
      ((fault :: rest).find? fun fault => decide (fault.Breaks name)) =
        rest.find? fun fault => decide (fault.Breaks name) := by
    simp [h]
  unfold fault? Fault.inOrder
  split
  · next hlong => exact hhere _ hlong
  next hlong =>
  rw [hlater _ (show ¬ Fault.tooLong.Breaks name from hlong)]
  split
  · next hempty => exact hhere _ (isEmpty_iff_breaks.1 hempty)
  next hempty =>
  rw [hlater _ (mt isEmpty_iff_breaks.2 hempty)]
  split
  · next hbad => exact hhere _ (not_all_iff_breaks.1 hbad)
  next hbad =>
  have hchars : ¬ Fault.badCharacter.Breaks name := mt not_all_iff_breaks.2 hbad
  rw [hlater _ hchars]
  split
  · next hdigit => exact hhere _ (beginsWith_isDigit_iff_breaks.1 hdigit)
  next hdigit =>
  rw [hlater _ (mt beginsWith_isDigit_iff_breaks.2 hdigit)]
  split
  · next honly => exact hhere _ ((not_any_iff_breaks hchars).1 honly)
  next honly =>
  rw [hlater _ (mt (not_any_iff_breaks hchars).2 honly)]
  split
  · next hlast => exact hhere _ (endsWithUnderscore_iff_breaks.1 hlast)
  next hlast =>
  rw [hlater _ (mt endsWithUnderscore_iff_breaks.2 hlast), List.find?_nil]

theorem fault?_eq_some : fault? name = some fault ↔ FirstBroken name fault := by
  rw [fault?_eq_find?, List.find?_eq_some_iff_append]
  simp [FirstBroken]

theorem Proper.not_breaks (h : Proper name) (fault : Fault) : ¬ fault.Breaks name := by
  intro hbreaks
  cases fault with
  | tooLong => exact Nat.not_lt.2 h.length_le hbreaks
  | tooShort => exact Nat.not_lt.2 h.length_pos hbreaks
  | badCharacter =>
    obtain ⟨c, hc, hbad⟩ := hbreaks
    exact hbad (h.chars c hc)
  | leadingDigit =>
    obtain ⟨c, hc, hdigit⟩ := hbreaks
    exact h.first c hc hdigit
  | onlyUnderscores =>
    -- A name that is not empty has a last character, and that would be an underscore.
    have hne : name.toList ≠ [] := by
      intro hnil
      have hpos := h.length_pos
      rw [← String.length_toList, hnil] at hpos
      exact absurd hpos (by decide)
    have hlast := List.getLast?_eq_getLast_of_ne_nil hne
    exact h.last _ hlast (hbreaks _ (List.getLast_mem hne))
  | trailingUnderscore => exact h.last '_' hbreaks rfl

theorem fault?_eq_none : fault? name = none ↔ Proper name := by
  rw [fault?_eq_find?, List.find?_eq_none]
  constructor
  · intro h
    have hkept (fault : Fault) : ¬ fault.Breaks name := by
      have hmem : fault ∈ Fault.inOrder := by cases fault <;> decide
      simpa using h fault hmem
    exact {
      length_pos := Nat.not_lt.1 (hkept .tooShort)
      length_le := Nat.not_lt.1 (hkept .tooLong)
      chars := by simpa [Fault.Breaks] using hkept .badCharacter
      first := by simpa [Fault.Breaks] using hkept .leadingDigit
      last := by
        rintro _ hlast rfl
        exact hkept .trailingUnderscore hlast }
  · intro h fault _
    simpa using h.not_breaks fault

/-! ## Kinds of names -/

/-- What a package name is refused for: a leading underscore before a reserved name, and that before
the shared rules. -/
inductive PackageFault.Told (name : String) : PackageFault → Prop
  | leadingUnderscore (first : name.toList.head? = some '_') : Told name .leadingUnderscore
  | reserved (first : name.toList.head? ≠ some '_') (isReserved : name ∈ Name.reserved) :
      Told name .reserved
  | shared {fault : Fault} (first : name.toList.head? ≠ some '_') (free : name ∉ Name.reserved)
      (broken : FirstBroken name fault) : Told name (.shared fault)

/-- What the name of a dependency is refused for: that it is the name of the package that declares
it, before the shared rules. -/
inductive DependencyFault.Told (name current : String) : DependencyFault → Prop
  | sameAsPackage (same : name = current) : Told name current .sameAsPackage
  | shared {fault : Fault} (other : name ≠ current) (broken : FirstBroken name fault) :
      Told name current (.shared fault)

theorem checkShared_ok : checkShared name = .ok () ↔ Proper name := by
  rw [← fault?_eq_none]
  cases h : fault? name <;> simp [checkShared, h]

theorem checkShared_error : checkShared name = .error error ↔
    ∃ fault, FirstBroken name fault ∧ .shared name fault = error := by
  simp only [← fault?_eq_some]
  cases h : fault? name <;> simp [checkShared, h]

theorem checkExport_error : (checkExport name).result = .error error ↔
    ∃ fault, FirstBroken name fault ∧ .exported name fault = error := by
  simp only [← fault?_eq_some]
  unfold checkExport
  dsimp only
  cases h : fault? name with
  | none => split <;> simp
  | some fault => split <;> simp

theorem packageFault?_eq_none :
    packageFault? name = none ↔ Proper name ∧ name.toList.head? ≠ some '_' ∧ name ∉ reserved := by
  rw [← fault?_eq_none]
  unfold packageFault?
  by_cases hfirst : name.toList.head? = some '_'
  · simp [Identifier.isPrivateName, hfirst]
  · by_cases hreserved : name ∈ reserved <;> simp [Identifier.isPrivateName, hfirst, hreserved]

theorem packageFault?_eq_some {fault : PackageFault} :
    packageFault? name = some fault ↔ fault.Told name := by
  unfold packageFault?
  constructor
  · intro h
    split at h
    · next hfirst =>
      cases h
      exact .leadingUnderscore (of_decide_eq_true hfirst)
    next hfirst =>
    have hfirst : name.toList.head? ≠ some '_' := fun hhead => hfirst (decide_eq_true hhead)
    split at h
    · next hreserved =>
      cases h
      exact .reserved hfirst hreserved
    next hfree =>
    obtain ⟨fault, hfault, rfl⟩ := Option.map_eq_some_iff.1 h
    exact .shared hfirst hfree (fault?_eq_some.1 hfault)
  · intro h
    cases h with
    | leadingUnderscore first => simp [Identifier.isPrivateName, first]
    | reserved first isReserved => simp [Identifier.isPrivateName, first, isReserved]
    | shared first free broken =>
      simp [Identifier.isPrivateName, first, free, fault?_eq_some.2 broken]

theorem checkPackage_error : checkPackage name = .error error ↔
    ∃ fault, PackageFault.Told name fault ∧ .package name fault = error := by
  simp only [← packageFault?_eq_some]
  cases h : packageFault? name <;> simp [checkPackage, h]

theorem dependencyFault?_eq_none :
    dependencyFault? name current = none ↔ Proper name ∧ name ≠ current := by
  rw [← fault?_eq_none]
  by_cases hsame : name = current <;> simp [dependencyFault?, hsame]

theorem dependencyFault?_eq_some {fault : DependencyFault} :
    dependencyFault? name current = some fault ↔ fault.Told name current := by
  unfold dependencyFault?
  constructor
  · intro h
    split at h
    · next hsame =>
      cases h
      exact .sameAsPackage hsame
    · next hother =>
      obtain ⟨fault, hfault, rfl⟩ := Option.map_eq_some_iff.1 h
      exact .shared hother (fault?_eq_some.1 hfault)
  · intro h
    cases h with
    | sameAsPackage same => exact if_pos same
    | shared other broken => simp [other, fault?_eq_some.2 broken]

theorem checkDependency_error : checkDependency name current = .error error ↔
    ∃ fault, DependencyFault.Told name current fault ∧ .dependency name fault = error := by
  simp only [← dependencyFault?_eq_some]
  cases h : dependencyFault? name current <;> simp [checkDependency, h]

/-! ## What is behind a refusal -/

/-- A name is refused by the check of some kind. -/
inductive Refused (name current : String) (error : NameError) : Prop
  | package (check : checkPackage name = .error error)
  | exported (check : (checkExport name).result = .error error)
  | dependency (check : checkDependency name current = .error error)

/-- A refusal by a rule of one kind alone. -/
inductive ByOwnRule (name : String) : NameError → Prop
  | leadingUnderscore : ByOwnRule name (.package name .leadingUnderscore)
  | reserved : ByOwnRule name (.package name .reserved)
  | sameAsPackage : ByOwnRule name (.dependency name .sameAsPackage)

/-- A refusal wraps another one that tells its reason. -/
structure Wraps (error refusal : NameError) : Prop where
  cause : error.cause? = some refusal
  reason : ∃ fault, error.sharedFault? = some fault ∧ refusal = .shared error.name fault

theorem ByOwnRule.cause?_eq_none (h : ByOwnRule name error) : error.cause? = none := by
  cases h <;> rfl

/-- A refusal is by a rule of its kind alone, or wraps the refusal by the shared rules. -/
theorem Refused.wraps (h : Refused name current error) :
    ByOwnRule name error ∨ ∃ refusal, checkShared name = .error refusal ∧ Wraps error refusal := by
  have hshared {fault : Fault} (hbroken : FirstBroken name fault) :
      checkShared name = .error (.shared name fault) :=
    checkShared_error.2 ⟨fault, hbroken, rfl⟩
  cases h with
  | package check =>
    obtain ⟨fault, htold, rfl⟩ := checkPackage_error.1 check
    cases htold with
    | leadingUnderscore => exact .inl .leadingUnderscore
    | reserved => exact .inl .reserved
    | shared _ _ broken => exact .inr ⟨_, hshared broken, rfl, _, rfl, rfl⟩
  | exported check =>
    obtain ⟨fault, hbroken, rfl⟩ := checkExport_error.1 check
    exact .inr ⟨_, hshared hbroken, rfl, _, rfl, rfl⟩
  | dependency check =>
    obtain ⟨fault, htold, rfl⟩ := checkDependency_error.1 check
    cases htold with
    | sameAsPackage => exact .inl .sameAsPackage
    | shared _ broken => exact .inr ⟨_, hshared broken, rfl, _, rfl, rfl⟩

/-- What the checks of a name accept, and what they tell otherwise. The shared rules accept exactly
the proper names, and tell the first rule in their order that is broken; a package name is a proper
name without a leading underscore that is not reserved, and a leading underscore is told before that
the name is reserved, and that before the shared rules. Package names are accepted as names of the
dependencies of other packages, and these as names of exports; and a refusal that is not by a rule
of one kind alone has the refusal by the shared rules behind it and tells its reason. -/
theorem checks_exact (name : String) :
    (checkShared name = .ok () ↔ Proper name) ∧
    (∀ error, checkShared name = .error error ↔
      ∃ fault, FirstBroken name fault ∧ .shared name fault = error) ∧
    (checkPackage name = .ok () ↔
      checkShared name = .ok () ∧ name.toList.head? ≠ some '_' ∧ name ∉ reserved) ∧
    (∀ error, checkPackage name = .error error ↔
      ∃ fault, PackageFault.Told name fault ∧ .package name fault = error) ∧
    ∀ current,
      (checkPackage name = .ok () → name ≠ current → checkDependency name current = .ok ()) ∧
      (checkDependency name current = .ok () → (checkExport name).result = .ok ()) ∧
      ∀ error, Refused name current error → (ByOwnRule name error ∧ error.cause? = none) ∨
        ∃ refusal, checkShared name = .error refusal ∧ Wraps error refusal := by
  refine ⟨checkShared_ok, fun error => checkShared_error, ?_, fun error => checkPackage_error,
    fun current => ⟨fun hpackage hother => ?_, fun hdependency => ?_, fun error hrefused => ?_⟩⟩
  · rw [Package.checkPackage_ok, packageFault?_eq_none, checkShared_ok]
  · rw [Package.checkPackage_ok] at hpackage
    rw [Package.checkDependency_ok]
    exact dependencyFault?_of_packageFault? hpackage hother
  · rw [Package.checkDependency_ok, dependencyFault?_eq_none] at hdependency
    rw [checkExport_ok, fault?_eq_none]
    exact hdependency.1
  · rcases hrefused.wraps with hown | hwraps
    · exact .inl ⟨hown, hown.cause?_eq_none⟩
    · exact .inr hwraps

/-- A name that passes as a package, and one that no kind of check lets pass. -/
theorem checks_exact_goomba :
    checkPackage "goomba" = .ok () ∧ "goomba" ≠ "koopa" ∧
      checkDependency "goomba" "koopa" = .ok () ∧ (checkExport "goomba").result = .ok () ∧
      Refused "lol_" "koopa" (.dependency "lol_" (.shared .trailingUnderscore)) ∧
      checkShared "lol_" = .error (.shared "lol_" .trailingUnderscore) ∧
      Wraps (.dependency "lol_" (.shared .trailingUnderscore))
        (.shared "lol_" .trailingUnderscore) := by
  have hpackage : checkPackage "goomba" = .ok () := by rfl
  have hrefused : Refused "lol_" "koopa" (.dependency "lol_" (.shared .trailingUnderscore)) :=
    .dependency (by rfl)
  obtain ⟨-, -, -, -, hkinds⟩ := checks_exact "goomba"
  obtain ⟨hdependency, hexport, -⟩ := hkinds "koopa"
  obtain ⟨-, -, -, -, hothers⟩ := checks_exact "lol_"
  obtain ⟨-, -, hbehind⟩ := hothers "koopa"
  have haccepted := hdependency hpackage (by decide)
  refine ⟨hpackage, by decide, haccepted, hexport haccepted, hrefused, ?_⟩
  rcases hbehind _ hrefused with ⟨hown, -⟩ | ⟨refusal, hshared, hwraps⟩
  · cases hown
  · have hrefusal : .shared "lol_" .trailingUnderscore = refusal := Option.some.inj hwraps.cause
    rw [hrefusal]
    exact ⟨hshared, hwraps⟩

end Name

end ModPack
