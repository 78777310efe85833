import TxTemplate.Proofs.Address
import TxTemplate.Proofs.Fault.Writable
import TxTemplate.Proofs.TypedData.Layout
import TxTemplate.Template.Compile

set_option autoImplicit false

/-! The faults of the codec and those that leak through it. A caller is told of six families; what
ends with any other fault leaks it, and so does what is refused with a message that cannot be
written. A sequence of steps leaks what its first failing step does, so the leaks of a value are
those of its parts that are reached. -/

namespace TxTemplate

def Fault.IsForeign (fault : Fault) : Prop := ∀ cause, fault ≠ .codec cause

@[simp] theorem Fault.not_isForeign_codec (cause : CodecFault) : ¬ (Fault.codec cause).IsForeign :=
  fun foreign => foreign cause rfl

namespace Outcome

variable {α β : Type} {fault : Fault}

/-- What a caller gets from the computation is a fault that is foreign to the codec. -/
structure Leaks (outcome : Except Fault α) (fault : Fault) : Prop where
  fails : ∃ cause, outcome = .error cause ∧ cause.told = fault
  foreign : fault.IsForeign

@[simp] theorem not_leaks_ok (value : α) : ¬ Leaks (.ok value) fault := by
  rintro ⟨⟨cause, fails, -⟩, -⟩
  cases fails

theorem leaks_error {cause : Fault} :
    Leaks (.error cause : Except Fault α) fault ↔ cause.told = fault ∧ fault.IsForeign := by
  constructor
  · rintro ⟨⟨other, fails, told⟩, foreign⟩
    obtain rfl := Except.error.inj fails
    exact ⟨told, foreign⟩
  · rintro ⟨told, foreign⟩
    exact ⟨⟨cause, rfl, told⟩, foreign⟩

/-- A refusal leaks where its message cannot be written. -/
@[simp] theorem leaks_codec {cause : CodecFault} :
    Leaks (.error (.codec cause) : Except Fault α) fault ↔
      cause.isWritable = false ∧ fault = .unwritable := by
  rw [leaks_error, Fault.told]
  cases cause.isWritable with
  | true => exact iff_of_false (fun both => both.2 cause both.1.symm) (by simp)
  | false =>
      constructor
      · rintro ⟨rfl, -⟩
        exact ⟨rfl, rfl⟩
      · rintro ⟨-, rfl⟩
        exact ⟨rfl, nofun⟩

theorem leaks_foreign {cause : Fault} (foreign : cause.IsForeign) :
    Leaks (.error cause : Except Fault α) fault ↔ fault = cause := by
  have told : cause.told = cause := by
    cases cause with
    | codec inner => exact absurd rfl (foreign inner)
    | _ => rfl
  rw [leaks_error, told]
  constructor
  · rintro ⟨rfl, -⟩
    rfl
  · rintro rfl
    exact ⟨rfl, foreign⟩

@[simp] theorem leaks_numeral {text : String} {flaw : Decimal.Flaw} :
    Leaks (.error (.numeral text flaw) : Except Fault α) fault ↔ fault = .numeral text flaw :=
  leaks_foreign nofun

@[simp] theorem leaks_nonAscii :
    Leaks (.error .nonAscii : Except Fault α) fault ↔ fault = .nonAscii :=
  leaks_foreign nofun

@[simp] theorem leaks_shape {cause : ShapeFault} :
    Leaks (.error (.shape cause) : Except Fault α) fault ↔ fault = .shape cause :=
  leaks_foreign nofun

@[simp] theorem leaks_countTooLarge :
    Leaks (.error .countTooLarge : Except Fault α) fault ↔ fault = .countTooLarge :=
  leaks_foreign nofun

@[simp] theorem leaks_derivation :
    Leaks (.error .derivation : Except Fault α) fault ↔ fault = .derivation :=
  leaks_foreign nofun

@[simp] theorem leaks_nestedTooDeeply :
    Leaks (.error .nestedTooDeeply : Except Fault α) fault ↔ fault = .nestedTooDeeply :=
  leaks_foreign nofun

/-- What follows a step leaks only where the step succeeds. -/
theorem leaks_bind {x : Except Fault α} {f : α → Except Fault β} :
    Leaks (x >>= f) fault ↔ Leaks x fault ∨ ∃ value, x = .ok value ∧ Leaks (f value) fault := by
  cases x with
  | error other => simp [leaks_error]
  | ok value => simp

theorem leaks_map {x : Except Fault α} {f : α → β} : Leaks (x.map f) fault ↔ Leaks x fault := by
  have same : x.map f = x >>= fun value => .ok (f value) := by cases x <;> rfl
  simp [same, leaks_bind]

/-- The first part that does not pass leaks. -/
def FirstLeaks (passes leaks : α → Prop) (items : List α) : Prop :=
  ∃ before item after, items = before ++ item :: after ∧ (∀ earlier ∈ before, passes earlier) ∧
    leaks item

theorem not_firstLeaks_nil (passes leaks : α → Prop) : ¬ FirstLeaks passes leaks [] := by
  rintro ⟨before, item, after, none, -⟩
  exact List.append_ne_nil_of_right_ne_nil before (List.cons_ne_nil item after) none.symm

theorem firstLeaks_cons {passes leaks : α → Prop} {item : α} {rest : List α} :
    FirstLeaks passes leaks (item :: rest) ↔ leaks item ∨ passes item ∧
      FirstLeaks passes leaks rest := by
  constructor
  · rintro ⟨before, other, after, same, earlier, leak⟩
    cases before with
    | nil =>
        obtain ⟨rfl, -⟩ := List.cons.inj same
        exact .inl leak
    | cons first others =>
        obtain ⟨rfl, rfl⟩ := List.cons.inj same
        rw [List.forall_mem_cons] at earlier
        exact .inr ⟨earlier.1, others, other, after, rfl, earlier.2, leak⟩
  · rintro (leak | ⟨passed, before, other, after, rfl, earlier, leak⟩)
    · exact ⟨[], item, rest, rfl, List.forall_mem_nil _, leak⟩
    · exact ⟨item :: before, other, after, rfl, List.forall_mem_cons.mpr ⟨passed, earlier⟩, leak⟩

theorem leaks_mapM {f : α → Except Fault β} {items : List α} :
    Leaks (items.mapM f) fault ↔
      FirstLeaks (fun item => ∃ result, f item = .ok result) (fun item =>
        Leaks (f item) fault) items := by
  induction items with
  | nil => exact iff_of_false (not_leaks_ok []) (not_firstLeaks_nil _ _)
  | cons item rest ih =>
      rw [List.mapM_cons, firstLeaks_cons, leaks_bind]
      refine or_congr Iff.rfl ?_
      simp only [leaks_bind, ih, pure_eq_ok, not_leaks_ok, and_false, exists_false, or_false]
      constructor
      · rintro ⟨result, done, leak⟩
        exact ⟨⟨result, done⟩, leak⟩
      · rintro ⟨⟨result, done⟩, leak⟩
        exact ⟨result, done, leak⟩

end Outcome

open Outcome

variable {fault : Fault}

/-! ### Texts -/

namespace Placeholder

/-- A placeholder whose number has more digits than numerals may have, and the fault that it is
refused with. -/
def Overlong (text : String) (fault : Fault) : Prop :=
  ∃ digits, digits? text.toList = some digits ∧ Decimal.digitLimit < digits.length ∧
    fault = .numeral (String.ofList digits) (.tooLong digits.length)

theorem leaks_index? {text : String} : Leaks (index? text) fault ↔ Overlong text fault := by
  unfold index? Overlong
  cases digits? text.toList with
  | none => simp
  | some digits =>
      by_cases long : Decimal.digitLimit < digits.length
      · simp [long]
      · simp [long]

theorem leaks_resolve_text {params : Params} {text : String} :
    Leaks (resolve params (.str text)) fault ↔ Overlong text fault := by
  rw [← leaks_index?, resolve]
  cases index? text with
  | error other => simp [leaks_error]
  | ok index =>
      cases index with
      | none => simp
      | some index =>
          dsimp only
          split <;> simp

theorem leaks_resolve {params : Params} {value : Json} :
    Leaks (resolve params value) fault ↔ ∃ text, value = .str text ∧ Overlong text fault := by
  cases value with
  | str text => simp [leaks_resolve_text]
  | null | bool _ | int _ | float _ | arr _ | obj _ => simp [resolve]

theorem exists_text_of_resolve {params : Params} {text : String} {resolved : Json}
    (known : resolve params (.str text) = .ok resolved) : ∃ written, resolved = .str written := by
  rw [resolve] at known
  split at known
  · cases known
  · exact ⟨text, (Except.ok.inj known).symm⟩
  · split at known
    · exact ⟨_, (Except.ok.inj known).symm⟩
    · exact ⟨text, (Except.ok.inj known).symm⟩

theorem exists_resolved_isWritable {params : Params} {value : Json} :
    (∃ resolved, resolve params value = .ok resolved ∧ resolved.isWritable = false ∧
      fault = .unwritable) ↔
      value.isWritable = false ∧ fault = .unwritable := by
  cases value with
  | str text =>
      refine iff_of_false ?_ (by simp [Json.isWritable])
      rintro ⟨resolved, known, long, -⟩
      obtain ⟨written, rfl⟩ := exists_text_of_resolve known
      cases long
  | null | bool _ | int _ | float _ | arr _ | obj _ => simp [resolve]

end Placeholder

/-- Lists and objects, which name nothing. -/
def Json.IsContainer : Json → Prop
  | .arr _ | .obj _ => True
  | _ => False

namespace Scalar

/-- A text on which base 64 is not even tried, as it has other characters than those of ASCII. -/
def IsNonAscii (text : String) : Prop := ¬ ['0', 'x'] <+: text.toList ∧ isAscii text.toList = false

instance (text : String) : Decidable (IsNonAscii text) := inferInstanceAs (Decidable (_ ∧ _))

theorem leaks_bytesOfText {text : String} :
    Leaks (bytesOfText text) fault ↔ IsNonAscii text ∧ fault = .nonAscii := by
  unfold bytesOfText IsNonAscii
  split
  · rename_i digits chars
    simp only [chars]
    split <;> simp
  · rename_i other
    have unmarked : ¬ ['0', 'x'] <+: text.toList := by
      rintro ⟨digits, same⟩
      exact other digits same.symm
    cases ascii : isAscii text.toList with
    | false => simp [unmarked]
    | true =>
        simp only [Bool.not_true, Bool.false_eq_true, if_false]
        split <;> simp

theorem leaks_integer {value : Json} :
    Leaks (integer value) fault ↔
      value.IsContainer ∧ value.isWritable = false ∧ fault = .unwritable := by
  unfold integer
  cases value with
  | null | bool _ | int _ => simp [Json.IsContainer, Json.isWritable]
  | float x =>
      dsimp only
      cases Binary64.toInt? x <;> simp [Json.IsContainer, Json.isWritable]
  | str text =>
      dsimp only
      cases readTrimmed text <;> simp [Json.IsContainer, Json.isWritable]
  | arr _ | obj _ => simp [Json.IsContainer]

/-- What is no natural number leaks where it cannot be shown. -/
theorem leaks_natural {value : Json} :
    Leaks (natural value) fault ↔
      (∀ n : Int, value = .int n → n < 0) ∧ value.isWritable = false ∧ fault = .unwritable := by
  have whole := @leaks_integer fault value
  unfold natural
  cases known : integer value with
  | error cause =>
      rw [known] at whole
      refine Iff.trans (by simp only [leaks_error]) (whole.trans (and_congr_left fun shown =>
        iff_of_true ?_ ?_))
      · cases value with
        | null | bool _ | float _ | str _ => exact nomatch shown.1
        | int n => cases known
        | arr _ | obj _ => trivial
      · rintro n rfl
        cases known
  | ok n =>
      by_cases low : n < 0
      · simp only [if_pos low, leaks_codec, CodecFault.isWritable, EncodingFault.isWritable]
        refine (and_iff_right ?_).symm
        rintro m rfl
        obtain rfl := Except.ok.inj known
        exact low
      · simp only [if_neg low, not_leaks_ok, false_iff]
        rintro ⟨negative, long, -⟩
        cases value with
        | int m =>
            obtain rfl := Except.ok.inj known
            exact low (negative m rfl)
        | arr _ | obj _ => cases known
        | null | bool _ | float _ | str _ => cases long

theorem leaks_boolean {value : Json} :
    Leaks (boolean value) fault ↔ value.isWritable = false ∧ fault = .unwritable := by
  cases value with
  | null | bool _ | float _ | str _ | int _ | arr _ | obj _ => simp [boolean, Json.isWritable]

theorem leaks_packWord {kind : WordKind} {n : Nat} :
    Leaks (packWord kind n) fault ↔ Decimal.isWritable n = false ∧ fault = .unwritable := by
  unfold packWord
  split
  · simp
  · rename_i narrow
    refine iff_of_false (not_leaks_ok _) ?_
    rintro ⟨long, -⟩
    have wide := Decimal.lt_of_not_isWritable (8 * kind.width) (by cases kind <;> decide) long
    rw [Nat.pow_mul, Int.natAbs_natCast] at wide
    exact narrow wide

theorem integer_of_natural {value : Json} {n : Nat} (known : natural value = .ok n) :
    integer value = .ok (n : Int) := by
  unfold natural at known
  split at known
  · cases known
  · rename_i m read
    split_ifs at known with low
    obtain rfl := Except.ok.inj known
    rw [read, Int.toNat_of_nonneg (Int.not_lt.mp low)]

theorem natural_natCast (n : Nat) : natural (.int n) = .ok n := by
  simp [natural, integer]

/-- A word leaks from what does not fit in it as from what is no number. -/
theorem leaks_word {kind : WordKind} {value : Json} :
    Leaks (natural value >>= packWord kind) fault ↔ value.isWritable = false ∧
      fault = .unwritable := by
  rw [leaks_bind, leaks_natural]
  simp only [leaks_packWord]
  constructor
  · rintro (⟨-, long, told⟩ | ⟨n, known, long, told⟩)
    · exact ⟨long, told⟩
    · refine ⟨?_, told⟩
      cases shown : value.isWritable with
      | false => rfl
      | true =>
          rw [isWritable_of_integer shown (integer_of_natural known)] at long
          cases long
  · rintro ⟨long, told⟩
    by_cases whole : ∃ n : Nat, value = .int n
    · obtain ⟨n, rfl⟩ := whole
      exact .inr ⟨n, natural_natCast n, long, told⟩
    · refine .inl ⟨?_, long, told⟩
      rintro n rfl
      by_contra! positive
      exact whole ⟨n.toNat, by rw [Int.toNat_of_nonneg positive]⟩

/-- A literal that leaks: a placeholder that is too long, or a value that cannot be shown. -/
def IsLeaky (value : Json) (fault : Fault) : Prop :=
  (∃ text, value = .str text ∧ Placeholder.Overlong text fault) ∨
    value.isWritable = false ∧ fault = .unwritable

end Scalar

/-! ### Descriptors -/

/-- A member that names no kind and leaks: a list or an object, which cannot be looked up, or a
number that cannot be shown. -/
def Json.NamesNothing (member : Json) (fault : Fault) : Prop :=
  member.IsContainer ∧ fault = .shape .wrongKind ∨
    ∃ n, member = .int n ∧ Decimal.isWritable n = false ∧ fault = .unwritable

theorem Json.not_isText_of_namesNothing {value : Json} {text : String}
    (nothing : value.NamesNothing fault) : ¬ value.isText text = true := by
  rintro named
  cases value with
  | str _ => simp [NamesNothing, IsContainer] at nothing
  | null | bool _ | int _ | float _ | arr _ | obj _ => cases named

theorem Kind.leaks_ofMember {unknown : Json → KindFault} {member : Json}
    (shown : ∀ member, (unknown member).isWritable = member.isWritable) :
    Leaks (ofMember unknown member) fault ↔ member.NamesNothing fault := by
  cases member with
  | str name =>
      rw [ofMember]
      split <;> simp [Json.NamesNothing, Json.IsContainer, shown, Json.isWritable]
  | null | bool _ | int _ | float _ | arr _ | obj _ =>
      simp [ofMember, Json.NamesNothing, Json.IsContainer, shown, Json.isWritable]

namespace Descriptor

/-- The descriptors that leak, and what. A placeholder can be too long, the kind of an object can
name nothing, and what is neither text nor object may not be shown. The owner of a token account
leaks before its mint does, and the two may derive no account. -/
inductive IsLeaky (params : Params) : Json → Fault → Prop where
  | placeholder {text : String} {fault : Fault} (overlong : Placeholder.Overlong text fault) :
      IsLeaky params (.str text) fault
  | shape {value : Json} (other : ∀ fields, value ≠ .obj fields) (long : value.isWritable = false) :
      IsLeaky params value .unwritable
  | kind {fields : Fields} {fault : Fault} (nothing : (kindOf fields).NamesNothing fault) :
      IsLeaky params (.obj fields) fault
  | owner {fields : Fields} {owner mint : Json} {fault : Fault}
      (derived : (kindOf fields).isText "ata" = true)
      (ownerGiven : fields.lookup "owner" = some owner)
        (mintGiven : fields.lookup "mint" = some mint)
      (leaky : IsLeaky params owner fault) : IsLeaky params (.obj fields) fault
  | mint {fields : Fields} {owner mint : Json} {ownerAddress : Address} {fault : Fault}
      (derived : (kindOf fields).isText "ata" = true)
        (ownerGiven : fields.lookup "owner" = some owner)
      (mintGiven : fields.lookup "mint" = some mint)
        (resolved : resolve params owner = .ok ownerAddress)
      (leaky : IsLeaky params mint fault) : IsLeaky params (.obj fields) fault
  | underived {fields : Fields} {owner mint : Json} {ownerAddress mintAddress : Address}
      (derived : (kindOf fields).isText "ata" = true)
        (ownerGiven : fields.lookup "owner" = some owner)
      (mintGiven : fields.lookup "mint" = some mint)
        (ownerResolved : resolve params owner = .ok ownerAddress)
      (mintResolved : resolve params mint = .ok mintAddress)
      (none : Address.associated? ownerAddress mintAddress = none) :
        IsLeaky params (.obj fields) .derivation

variable {params : Params} {fields : Fields}

theorem not_leaks_resolveText {text : String} : ¬ Leaks (resolveText text) fault := by
  unfold resolveText Address.parse
  split
  · simp
  · split <;> simp

theorem leaks_resolve_text {text : String} :
    Leaks (resolve params (.str text)) fault ↔ Placeholder.Overlong text fault := by
  rw [← @Placeholder.leaks_resolve_text fault params, resolve]
  cases Placeholder.resolve params (.str text) with
  | error other => simp [leaks_error]
  | ok resolved => simp [not_leaks_resolveText]

theorem leaks_resolveKind {kind : Json} :
    Leaks (resolveKind kind) fault ↔ kind.NamesNothing fault := by
  cases kind with
  | str tag =>
      rw [resolveKind]
      split <;> simp [Json.NamesNothing, Json.IsContainer, Json.isWritable]
  | null | bool _ | int _ | float _ | arr _ | obj _ =>
      simp [resolveKind, Json.NamesNothing, Json.IsContainer, Json.isWritable]

theorem leaks_associated {owner mint : Address} :
    Leaks (Address.associated owner mint) fault ↔
      Address.associated? owner mint = none ∧ fault = .derivation := by
  unfold Address.associated
  cases Address.associated? owner mint with
  | none => simp
  | some address => simp

theorem not_leaks_resolve_partial (derived : (kindOf fields).isText "ata" = true)
    (missing : fields.lookup "owner" = none ∨ fields.lookup "mint" = none) :
    ¬ Leaks (resolve params (.obj fields)) fault := by
  have refused : ∃ key, resolve params (.obj fields) =
      .error (.codec (.missing (.inDescriptor key))) := by
    rw [resolve, if_pos derived]
    cases owner : fields.lookup "owner" with
    | none => exact ⟨_, rfl⟩
    | some owner =>
        have mint : fields.lookup "mint" = none := by simpa [owner] using missing
        rw [mint]
        exact ⟨_, rfl⟩
  obtain ⟨key, refused⟩ := refused
  simp [refused]

theorem leaks_resolve_derived {owner mint : Json} (derived : (kindOf fields).isText "ata" = true)
    (ownerGiven : fields.lookup "owner" = some owner)
    (mintGiven : fields.lookup "mint" = some mint) :
    Leaks (resolve params (.obj fields)) fault ↔
      Leaks (resolve params owner) fault ∨ ∃ ownerAddress, resolve params owner = .ok ownerAddress ∧
        (Leaks (resolve params mint) fault ∨ ∃ mintAddress, resolve params mint = .ok mintAddress ∧
          Address.associated? ownerAddress mintAddress = none ∧ fault = .derivation) := by
  simp only [resolve_derived derived ownerGiven mintGiven, leaks_bind, leaks_associated]

theorem leaks_resolve_kind (other : ¬ (kindOf fields).isText "ata" = true) :
    Leaks (resolve params (.obj fields)) fault ↔ (kindOf fields).NamesNothing fault := by
  rw [resolve, if_neg other, leaks_resolveKind]

theorem leaks_resolve_other {value : Json} (texts : ∀ text, value ≠ .str text)
    (objects : ∀ fields, value ≠ .obj fields) :
    Leaks (resolve params value) fault ↔ value.isWritable = false ∧ fault = .unwritable := by
  cases value with
  | str text => exact absurd rfl (texts text)
  | obj fields => exact absurd rfl (objects fields)
  | null | bool _ | int _ | float _ | arr _ => exact leaks_codec

theorem isLeaky_of_leaks {descriptor : Json} (leaks : Leaks (resolve params descriptor) fault) :
    IsLeaky params descriptor fault := by
  induction descriptor using Json.memberInduction with
  | step descriptor each =>
      cases descriptor with
      | null | bool _ | int _ | float _ | arr _ =>
          obtain ⟨long, rfl⟩ := (leaks_resolve_other (by simp) (by simp)).mp leaks
          exact .shape (by simp) long
      | str text =>
          rw [leaks_resolve_text] at leaks
          exact .placeholder leaks
      | obj fields =>
          by_cases derived : (kindOf fields).isText "ata" = true
          · cases ownerGiven : fields.lookup "owner" with
            | none => exact absurd leaks (not_leaks_resolve_partial derived (.inl ownerGiven))
            | some owner =>
                cases mintGiven : fields.lookup "mint" with
                | none => exact absurd leaks (not_leaks_resolve_partial derived (.inr mintGiven))
                | some mint =>
                    rw [leaks_resolve_derived derived ownerGiven mintGiven] at leaks
                    have inOwner := (each fields "owner" owner rfl ownerGiven).1
                    have inMint := (each fields "mint" mint rfl mintGiven).1
                    obtain here | ⟨ownerAddress, resolved, here |
                      ⟨mintAddress, other, none, rfl⟩⟩ := leaks
                    · exact .owner derived ownerGiven mintGiven (inOwner here)
                    · exact .mint derived ownerGiven mintGiven resolved (inMint here)
                    · exact .underived derived ownerGiven mintGiven resolved other none
          · exact .kind ((leaks_resolve_kind derived).mp leaks)

theorem leaks_of_isLeaky {descriptor : Json} (leaky : IsLeaky params descriptor fault) :
    Leaks (resolve params descriptor) fault := by
  induction leaky with
  | placeholder overlong => exact leaks_resolve_text.mpr overlong
  | shape other long =>
      refine (leaks_resolve_other ?_ other).mpr ⟨long, rfl⟩
      rintro text rfl
      cases long
  | kind nothing =>
      exact (leaks_resolve_kind (Json.not_isText_of_namesNothing nothing)).mpr nothing
  | owner derived ownerGiven mintGiven _ ih =>
      exact (leaks_resolve_derived derived ownerGiven mintGiven).mpr (.inl ih)
  | mint derived ownerGiven mintGiven resolved _ ih =>
      exact (leaks_resolve_derived derived ownerGiven mintGiven).mpr (.inr ⟨_, resolved, .inl ih⟩)
  | underived derived ownerGiven mintGiven ownerResolved mintResolved none =>
      exact (leaks_resolve_derived derived ownerGiven mintGiven).mpr
        (.inr ⟨_, ownerResolved, .inr ⟨_, mintResolved, none, rfl⟩⟩)

theorem leaks_resolve_iff {descriptor : Json} :
    Leaks (resolve params descriptor) fault ↔ IsLeaky params descriptor fault :=
  ⟨isLeaky_of_leaks, leaks_of_isLeaky⟩

end Descriptor

end TxTemplate
