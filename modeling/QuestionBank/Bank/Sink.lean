import QuestionBank.Bank.Records

/-!
# Where questions go

A sink takes questions one by one and may refuse one. A bank in memory refuses what
has no known kind; a bank in a file refuses a record that is not valid and is then
left as it was.
-/

namespace QuestionBank

/-- Why a sink refuses a question. -/
inductive SinkFault where
  | invalid (violation : Violation)
  | unknownKind (name : Json)
  | broken (breach : Breach)

/-- The wording of a refusal. -/
def SinkFault.message : SinkFault → String
  | invalid violation => violation.message
  | unknownKind name => "Refusing to store unknown question " ++ name.shown
  | broken breach => breach.message

/-- A destination of questions with a state. -/
structure Sink (σ : Type) where
  add : σ → Record → Except SinkFault σ

/-- The sink that keeps nothing. -/
def Sink.none : Sink Unit := ⟨fun _ _ => .ok ()⟩

/-- The bank in memory: the records in the order in which they came. -/
def Sink.memory : Sink (List Record) :=
  ⟨fun held r =>
    if r.kind = .unknown then .error (.unknownKind (r.get "name")) else .ok (held ++ [r])⟩

/-- The files with a bank among them, and the number of records written to it. -/
structure FileBank where
  files : Files
  written : Nat := 0

/-- The bank in a file. Every record is checked before it is written. -/
def Sink.file (path : String) (strict : Bool) : Sink FileBank :=
  ⟨fun bank r =>
    match r.toJson with
    | .obj members =>
      match violation? strict members with
      | some violation => .error (.invalid violation)
      | Option.none =>
        match bank.files.appendValues path [r.toJson] with
        | .error breach => .error (.broken breach)
        | .ok files => .ok ⟨files, bank.written + 1⟩
    | _ => .ok bank⟩

end QuestionBank
