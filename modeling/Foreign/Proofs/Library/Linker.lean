import Mathlib.Data.Finset.Card
import Foreign.Library.Linker
import Foreign.Proofs.Call.Interface

/-!
Binding a list of declarations. Whether a declaration resolves depends on its symbol and the library alone,
because the interface of a well-formed signature is always there to be had. Both policies are therefore
read off the scan that tries every declaration: one goes through the same steps up to the first symbol
that is missing, and the other looks at what the scan reports.
-/

namespace Foreign
namespace Library

/-- Whether a symbol can be found. No library has a name with NUL in it. -/
def resolves (library : Library) (symbol : String) : Bool :=
  !hasNul symbol && (library.address? symbol).isSome

/-- What a declaration is bound to: the code at its symbol, to be called by its signature. -/
structure Binds (library : Library) (declaration : Declaration) (binding : Binding) : Prop where
  symbol : binding.symbol = declaration.symbol
  address : library.address? declaration.symbol = some binding.function.address
  signature : binding.function.interface.signature = declaration.signature
  native : binding.function.isTrampoline = false

end Library
namespace Linker

/-- What binding one declaration can come to. -/
inductive Resolved (library : Library) (declaration : Declaration) : Outcome Binding → Prop
  | bound {binding : Binding} (resolves : library.resolves declaration.symbol = true)
      (binds : library.Binds declaration binding) : Resolved library declaration (.ok binding)
  | missing {cause : LinkError} (unresolved : library.resolves declaration.symbol = false)
      (named : cause.missing = [declaration.symbol]) :
      Resolved library declaration (.error (.link cause))
  | malformed {fault : Fault} (resolves : library.resolves declaration.symbol = true)
      (malformed : declaration.signature.Malformed fault) :
      Resolved library declaration (.error (.fault fault))

theorem resolved (library : Library) (machine : Machine) (declaration : Declaration) :
    ∃ outcome next, resolve library machine declaration = (outcome, next) ∧
      Resolved library declaration outcome := by
  refine ⟨(resolve library machine declaration).1, (resolve library machine declaration).2, rfl, ?_⟩
  rw [resolve, Library.symbol]
  cases hnul : Library.hasNul declaration.symbol with
  | true => exact .missing (by simp [Library.resolves, hnul]) rfl
  | false =>
      cases haddress : library.address? declaration.symbol with
      | none => exact .missing (by simp [Library.resolves, haddress]) rfl
      | some address =>
          have resolves : library.resolves declaration.symbol = true := by
            simp [Library.resolves, hnul, haddress]
          simp only [Bool.false_eq_true, if_false]
          split
          · rename_i failure hbuild
            obtain ⟨fault, malformed, rfl⟩ :=
              Interfaces.malformed_of_build (Machine.interface_eq_error_iff.mp hbuild)
            exact .malformed resolves malformed
          · rename_i interface after hbuild
            exact .bound resolves ⟨rfl, haddress, (Machine.interface_eq_ok hbuild).1, rfl⟩

variable {library : Library} {machine after : Machine} {declaration : Declaration}
  {declarations : List Declaration} {bindings : List Binding} {report : LinkReport}

/-- The list split in two: the declarations that resolve, with what they are bound to, and the symbols of
the others, each in the order of declaration. -/
structure Splits (library : Library) (declarations : List Declaration) (report : LinkReport) : Prop where
  bindings : List.Forall₂ library.Binds
    (declarations.filter fun declaration => library.resolves declaration.symbol) report.bindings
  missing : report.missing =
    (declarations.filter fun declaration => !library.resolves declaration.symbol).map (·.symbol)

theorem Splits.bound (splits : Splits library declarations report) {binding : Binding}
    (resolves : library.resolves declaration.symbol = true)
    (binds : library.Binds declaration binding) :
    Splits library (declaration :: declarations)
      { report with bindings := binding :: report.bindings } := by
  constructor
  · simpa only [List.filter_cons, resolves, if_true] using .cons binds splits.bindings
  · simpa only [List.filter_cons, resolves, Bool.not_true, Bool.false_eq_true, if_false]
      using splits.missing

theorem Splits.skipped (splits : Splits library declarations report)
    (unresolved : library.resolves declaration.symbol = false) :
    Splits library (declaration :: declarations)
      { report with missing := declaration.symbol :: report.missing } := by
  constructor
  · simpa only [List.filter_cons, unresolved, Bool.false_eq_true, if_false] using splits.bindings
  · simp only [List.filter_cons, unresolved, Bool.not_false, if_true, List.map_cons, splits.missing]

theorem Splits.length_add (splits : Splits library declarations report) :
    report.bindings.length + report.missing.length = declarations.length := by
  rw [← splits.bindings.length_eq, splits.missing, List.length_map, ← List.countP_eq_length_filter,
    ← List.countP_eq_length_filter,
    List.length_eq_countP_add_countP fun declaration : Declaration => library.resolves declaration.symbol]
  simp

/-- Stopping at the first failure and trying everything are the same where nothing fails. -/
theorem bindEach_eq_ok_iff : bindEach library machine declarations = (.ok bindings, after) ↔
    bindAvailable library machine declarations = (.ok ⟨bindings, []⟩, after) := by
  induction declarations generalizing machine bindings with
  | nil =>
      simp only [bindEach, bindAvailable, Prod.mk.injEq, Except.ok.injEq, LinkReport.mk.injEq, and_true]
  | cons declaration rest ih =>
      rw [bindEach, bindAvailable]
      obtain ⟨outcome, next⟩ := resolve library machine declaration
      cases outcome with
      | ok binding =>
          simp only [Prod.mk.injEq, Outcome.map_eq_ok_iff]
          constructor
          · rintro ⟨⟨others, hothers, rfl⟩, hafter⟩
            obtain ⟨hreport, hstop⟩ := Prod.mk.inj (ih.mp (Prod.ext hothers hafter))
            exact ⟨⟨_, hreport, rfl⟩, hstop⟩
          · rintro ⟨⟨⟨others, missing⟩, hreport, heq⟩, hafter⟩
            obtain ⟨rfl, rfl⟩ := LinkReport.mk.inj heq
            obtain ⟨hothers, hstop⟩ := Prod.mk.inj (ih.mpr (Prod.ext hreport hafter))
            exact ⟨⟨others, hothers, rfl⟩, hstop⟩
      | error failure =>
          refine ⟨fun h => (nomatch h), fun h => ?_⟩
          cases failure with
          | link cause =>
              -- the report of a list with a symbol missing is never complete
              obtain ⟨report, -, heq⟩ := Outcome.map_eq_ok_iff.mp (congrArg Prod.fst h)
              cases (LinkReport.mk.inj heq).2
          | _ => cases congrArg Prod.fst h

/-- A policy makes no difference to a binding that succeeds. -/
theorem bind_eq_ok_iff {linker : Linker} :
    linker.bind library machine declarations = (.ok bindings, after) ↔
      bindAvailable library machine declarations = (.ok ⟨bindings, []⟩, after) := by
  rw [bind]
  cases linker.policy with
  | failFast => exact bindEach_eq_ok_iff
  | reportAll =>
      obtain ⟨outcome, next⟩ := bindAvailable library machine declarations
      obtain failure | ⟨found, _ | ⟨first, others⟩⟩ := outcome <;> simp

theorem bindEach_of_missing {first : String} {others : List String}
    (wellFormed : ∀ declaration ∈ declarations, library.resolves declaration.symbol = true →
      declaration.signature.WellFormed)
    (scanned : bindAvailable library machine declarations = (.ok report, after))
    (missing : report.missing = first :: others) :
    ∃ cause stop, bindEach library machine declarations = (.error (.link cause), stop) ∧
      cause.missing = [first] := by
  induction declarations generalizing machine report with
  | nil =>
      cases scanned
      cases missing
  | cons declaration rest ih =>
      obtain ⟨hfirst, hrest⟩ := List.forall_mem_cons.mp wellFormed
      obtain ⟨outcome, next, hresolve, step⟩ := resolved library machine declaration
      rw [bindAvailable, hresolve] at scanned
      rw [bindEach, hresolve]
      cases step with
      | bound resolves binds =>
          obtain ⟨hreport, hafter⟩ := Prod.mk.inj scanned
          obtain ⟨others, hothers, rfl⟩ := Outcome.map_eq_ok_iff.mp hreport
          obtain ⟨cause, stop, stopped, named⟩ := ih hrest (Prod.ext hothers hafter) missing
          exact ⟨cause, stop, by simp only [stopped, Except.map], named⟩
      | missing unresolved named =>
          obtain ⟨hreport, hafter⟩ := Prod.mk.inj scanned
          obtain ⟨report, -, rfl⟩ := Outcome.map_eq_ok_iff.mp hreport
          obtain ⟨rfl, -⟩ := List.cons.inj missing
          exact ⟨_, next, rfl, named⟩
      | malformed resolves malformed =>
          exact absurd ⟨_, malformed⟩ (Interface.wellFormed_iff.mp (hfirst resolves))

end Linker
namespace LinkedModule

variable {library : Library} {declarations later : List Declaration} {declaration : Declaration}
  {bindings : List Binding} {symbol : String}

/-- What a module holds of the declarations it was linked from. -/
structure Holds (linked : LinkedModule) (declarations : List Declaration) : Prop where
  found : ∀ symbol, (linked.get? symbol).isSome ↔ symbol ∈ declarations.map (·.symbol)
  last : ∀ before declaration later, declarations = before ++ declaration :: later →
    (∀ other ∈ later, other.symbol ≠ declaration.symbol) →
      ∃ binding, linked.get? declaration.symbol = some binding ∧
        linked.library.Binds declaration binding
  size : linked.size = (declarations.map (·.symbol)).toFinset.card

end LinkedModule
namespace Linker

variable {linker : Linker} {host : Host} {machine after : Machine} {path : String}
  {declarations : List Declaration} {linked : LinkedModule}

/-- What the two policies make of declarations, by what the scan of all of them reports. -/
structure Agrees (library : Library) (machine : Machine) (declarations : List Declaration)
    (report : LinkReport) (after : Machine) : Prop where
  splits : Splits library declarations report
  whole : report.bindings.length + report.missing.length = declarations.length
  succeeds : ∀ linker : Linker,
    (∃ bindings, (linker.bind library machine declarations).1 = .ok bindings) ↔ report.missing = []
  same : report.missing = [] → ∀ linker : Linker,
    linker.bind library machine declarations = (.ok report.bindings, after)
  reportAll : report.missing ≠ [] → ∀ linker : Linker, linker.policy = .reportAll →
    ∃ cause, (linker.bind library machine declarations).1 = .error (.link cause) ∧
      cause.missing = report.missing
  failFast : ∀ first others, report.missing = first :: others →
    ∀ linker : Linker, linker.policy = .failFast →
      ∃ cause, (linker.bind library machine declarations).1 = .error (.link cause) ∧
        cause.missing = [first]

theorem agrees {library : Library} {report : LinkReport}
    (wellFormed : ∀ declaration ∈ declarations, library.resolves declaration.symbol = true →
      declaration.signature.WellFormed)
    (scanned : bindAvailable library machine declarations = (.ok report, after))
    (splits : Splits library declarations report) :
    Agrees library machine declarations report after := by
  constructor
  case splits => exact splits
  case whole => exact splits.length_add
  case same =>
    intro complete linker
    exact bind_eq_ok_iff.mpr (scanned.trans (by rw [← complete]))
  case succeeds =>
    intro linker
    constructor
    · rintro ⟨bindings, bound⟩
      have again := bind_eq_ok_iff.mp (Prod.ext bound rfl)
      rw [scanned] at again
      cases again
      rfl
    · intro complete
      exact ⟨report.bindings, congrArg Prod.fst (bind_eq_ok_iff.mpr (scanned.trans (by rw [← complete])))⟩
  case reportAll =>
    intro incomplete linker hpolicy
    refine ⟨.missingSymbols report.missing, ?_, rfl⟩
    simp [bind, hpolicy, scanned, incomplete]
  case failFast =>
    intro first others missing linker hpolicy
    obtain ⟨cause, stop, stopped, named⟩ := bindEach_of_missing wellFormed scanned missing
    refine ⟨cause, ?_, named⟩
    simp only [bind, hpolicy, stopped]

def sampleSignature (width : Width) : Signature :=
  ⟨[.int width true], .int width true⟩

end Linker
end Foreign
