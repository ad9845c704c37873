import Circuitry.Workbench.Basic

/-!
Steps on ledgers of their own, which map circuits to integers and texts.
-/

namespace Circuitry.Workbench

inductive LedgerStep
  | make (ledger : String)
  | register (ledger circuit : String) (value : Datum)
  | valueOf (ledger circuit : String)
  | circuitOf (ledger : String) (value : Datum)
  | hasCircuit (ledger circuit : String)
  | hasValue (ledger : String) (value : Datum)
  | view (ledger : String)

def Datum.answer : Datum → Answer
  | .integer value => .integer value
  | .text value => .text value

def keepLedger (bench : Bench) (name : String) (ledger : Ledger (Circuit Kind) Datum) : Reply :=
  (.ok, { bench with ledgers := bench.ledgers.insert name ledger })

def LedgerStep.perform (bench : Bench) : LedgerStep → Reply
  | .make name => keepLedger bench name .empty
  | .register name circuitName value =>
    Reply.withNamed bench bench.ledgers name fun ledger =>
      Reply.withNamed bench bench.circuits circuitName fun circuit =>
        match ledger.register circuit value with
        | .ok grown => keepLedger bench name grown
        | .error conflict =>
          let error : CompileError Kind Datum := .ofConflict circuit value conflict
          (.failure (error.mapOutput Datum.outline), bench)
  | .valueOf name circuitName =>
    Reply.withNamed bench bench.ledgers name fun ledger =>
      Reply.ofQuestion bench bench.circuits circuitName fun circuit =>
        match ledger.valueOf? circuit with
        | some value => value.answer
        | none => .failure (.neverCompiled circuit.id)
  | .circuitOf name value =>
    Reply.ofQuestion bench bench.ledgers name fun ledger =>
      match ledger.keyOf? value with
      | some circuit => .number circuit.id.number
      | none => .failure (.unknownOutput value.outline)
  | .hasCircuit name circuitName =>
    Reply.withNamed bench bench.ledgers name fun ledger =>
      Reply.ofQuestion bench bench.circuits circuitName fun circuit =>
        .truth (ledger.hasKey circuit)
  | .hasValue name value =>
    Reply.ofQuestion bench bench.ledgers name fun ledger => .truth (ledger.hasValue value)
  | .view name => Reply.ofQuestion bench bench.ledgers name .ledgerView

end Circuitry.Workbench
