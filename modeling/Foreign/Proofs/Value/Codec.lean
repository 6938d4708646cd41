import Foreign.Proofs.Word
import Foreign.Value

/-!
Values as bytes. A scalar or a pointer that fits a type has exactly the bytes of the type, and decoding them
as that type gives the value back: a scalar bit for bit, a pointer with its address, borrowed and typed
by the pointee that the type declares.
-/

namespace Foreign

def CType.IsPlain (type : CType) : Prop :=
  ∀ layout, type ≠ .struct layout

theorem CType.isVoid_of_complete {type : CType} (complete : type ≠ .void) : type.isVoid = false :=
  Bool.eq_false_iff.mpr (mt CType.isVoid_iff.mp complete)

theorem CType.size_of_scalarKind? {type : CType} {kind : ScalarKind}
    (h : type.scalarKind? = some kind) : type.size.toNat = kind.size := by
  cases type with
  | int width signed => cases width <;> cases signed <;> cases h <;> rfl
  | float | double => cases h; rfl
  | void | pointer _ | struct _ => cases h

namespace Value

/-- The ways in which a value fits a type. -/
inductive Fits : Value → CType → Prop
  | void : Fits .void .void
  | scalar {s : Scalar} {type : CType} (kind : type.scalarKind? = some s.kind) : Fits (.scalar s) type
  | pointer {view : View} {pointee : CType} : Fits (.pointer view) (.pointer pointee)
  | struct {view : View} {layout : Layout} (element : view.element = .struct layout) :
      Fits (.struct view) (.struct layout)

theorem fits_iff {value : Value} {type : CType} : value.fits type = true ↔ Fits value type := by
  constructor
  · intro h
    cases value with
    | void =>
        cases type with
        | void => exact .void
        | int _ _ | float | double | pointer _ | struct _ => cases h
    | scalar s =>
        have hkind : type.scalarKind? = some s.kind := by
          cases type <;> simpa [fits] using h
        exact .scalar hkind
    | pointer view =>
        cases type with
        | pointer pointee => exact .pointer
        | void | int _ _ | float | double | struct _ => cases h
    | struct view =>
        cases type with
        | struct layout =>
            cases hview : view.element with
            | struct other =>
                simp only [fits, hview, CType.layout?, beq_iff_eq, Option.some.injEq] at h
                exact .struct (h ▸ hview)
            | void | int _ _ | float | double | pointer _ =>
                simp [fits, hview, CType.layout?] at h
        | void | int _ _ | float | double | pointer _ => cases h
  · intro h
    cases h with
    | void => rfl
    | scalar kind =>
        rename_i s
        cases type <;> simpa [fits] using kind
    | pointer => rfl
    | struct element => simp [fits, element, CType.layout?]

theorem Fits.plain {value : Value} {type : CType} (fits : Fits value type)
    (h : ∀ view, value ≠ .struct view) : type.IsPlain := by
  rintro layout rfl
  cases fits with
  | scalar kind => cases kind
  | struct _ => exact h _ rfl

theorem Fits.ne_struct {value : Value} {type : CType} (fits : Fits value type) (plain : type.IsPlain)
    (view : View) : value ≠ .struct view := by
  rintro rfl
  cases fits
  exact plain _ rfl

/-- The value as a place of type `type` gives it back: a pointer is borrowed, and typed by the pointee that
the place declares. -/
def asRead (type : CType) : Value → Value
  | .pointer view => .pointer (.wrap view.address (type.pointee?.getD .void))
  | value => value

theorem decode_of_scalarKind? {type : CType} {kind : ScalarKind} (h : type.scalarKind? = some kind)
    (bytes : List UInt8) : decode type bytes = .scalar (Scalar.decode kind bytes) := by
  cases type with
  | int width signed => simp [decode, h]
  | float | double => simp [decode, h]
  | void | pointer _ | struct _ => cases h

theorem decode_ne_struct (type : CType) (bytes : List UInt8) (target : View) :
    decode type bytes ≠ .struct target := by
  intro h
  unfold decode at h
  split at h
  · cases h
  · split at h <;> cases h

theorem decode_eq_pointer_iff {type : CType} {bytes : List UInt8} {target : View} :
    decode type bytes = .pointer target ↔ ∃ pointee, type = .pointer pointee ∧
      target = .wrap (UInt64.ofNat (LittleEndian.decode bytes)) pointee := by
  constructor
  · intro h
    unfold decode at h
    split at h
    · cases h
      exact ⟨_, rfl, rfl⟩
    · split at h <;> cases h
  · rintro ⟨pointee, rfl, rfl⟩
    rfl

theorem length_encode_of_fits {value : Value} {type : CType} (fits : Fits value type)
    (plain : type.IsPlain) : value.encode.length = type.size.toNat := by
  cases fits with
  | void => rfl
  | scalar kind => rw [encode, Scalar.length_encode, CType.size_of_scalarKind? kind]
  | pointer => rw [encode, LittleEndian.length_encode]; rfl
  | struct _ => exact absurd rfl (plain _)

theorem decode_encode_of_fits {value : Value} {type : CType} (fits : Fits value type)
    (plain : type.IsPlain) : decode type value.encode = value.asRead type := by
  cases fits with
  | void => rfl
  | scalar kind => rw [encode, decode_of_scalarKind? kind, Scalar.decode_encode]; rfl
  | @pointer view pointee =>
      have haddress : view.address.toNat % Nat.pow 256 8 = view.address.toNat :=
        Nat.mod_eq_of_lt view.address.toNat_lt
      simp only [decode, encode, asRead, LittleEndian.decode_encode, haddress, UInt64.ofNat_toNat,
        CType.pointee?, Option.getD_some]
  | struct _ => exact absurd rfl (plain _)

theorem exists_scalarKind? {type : CType} (plain : type.IsPlain) (complete : type ≠ .void)
    (number : type.pointee? = none) : ∃ kind, type.scalarKind? = some kind := by
  cases type with
  | void => exact absurd rfl complete
  | struct layout => exact absurd rfl (plain layout)
  | pointer pointee => cases number
  | int width signed => cases width <;> cases signed <;> exact ⟨_, rfl⟩
  | float | double => exact ⟨_, rfl⟩

/-- Whatever bytes there are, they are those of a value of the type. -/
theorem decode_of_bytes {type : CType} {bytes : List UInt8} (plain : type.IsPlain)
    (complete : type ≠ .void) (length : bytes.length = type.size.toNat) :
    Fits (decode type bytes) type ∧ (decode type bytes).encode = bytes := by
  cases pointer : type.pointee? with
  | some pointee =>
      cases type with
      | pointer target =>
          have hlength : bytes.length = 8 := length
          have hlt : LittleEndian.decode bytes < 2 ^ 64 := by
            have := LittleEndian.decode_lt bytes
            rwa [hlength] at this
          refine ⟨.pointer, ?_⟩
          rw [decode, encode, View.wrap]
          dsimp only
          rw [Word.toNat_ofNat_of_lt hlt, ← hlength]
          exact LittleEndian.encode_decode bytes
      | void | int _ _ | float | double | struct _ => cases pointer
  | none =>
      obtain ⟨kind, hkind⟩ := exists_scalarKind? plain complete pointer
      rw [decode_of_scalarKind? hkind]
      exact ⟨.scalar hkind, Scalar.encode_decode kind bytes (length.trans (CType.size_of_scalarKind? hkind))⟩

end Value
end Foreign
