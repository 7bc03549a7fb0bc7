import RootObject.Base

/-!
Implementations of methods, as scripts. A script asks for one thing after another and goes on with what
it was answered, errors included: a base operation, a method of its own receiver, or an operation of
the console. Which implementation a method of the receiver has is not for the script to know; it is
settled by whoever answers.
-/

namespace RootObject

/-- What an implementation may ask for. -/
inductive Request where
  /-- The root class's own implementation, whatever the receiver's type has. -/
  | base (method : Method) (argument : method.Argument)
  /-- The method as the receiver's type has it. -/
  | call (method : Method) (argument : method.Argument)
  | write (text : String)
  | flush
  | readLine
  | readToken

/-- What the answer to a request is. -/
abbrev Request.Answer : Request → Type
  | .base method _ | .call method _ => Except Fault method.Reply
  | .write _ | .flush => Except IoError Unit
  | .readLine | .readToken => Except ReadError String

inductive Script (α : Type) : Type where
  | done (result : Except Fault α)
  | ask (request : Request) (next : request.Answer → Script α)

namespace Script

variable {α β : Type}

def fail (fault : Fault) : Script α :=
  .done (.error fault)

/-- Goes on from the value of a script; a fault ends the whole. -/
def andThen : Script α → (α → Script β) → Script β
  | .done (.ok value), next => next value
  | .done (.error fault), _ => fail fault
  | .ask request answered, next => .ask request fun answer => (answered answer).andThen next

instance : Monad Script where
  pure value := .done (.ok value)
  bind := andThen

/-- The root class's implementation; its fault is the script's. -/
def base (method : Method) (argument : method.Argument) : Script method.Reply :=
  .ask (.base method argument) .done

/-- The receiver's method; its fault is the script's. -/
def call (method : Method) (argument : method.Argument) : Script method.Reply :=
  .ask (.call method argument) .done

/-- A token from the console; a failure is a fault of the method. -/
def readToken (method : Method) : Script String :=
  .ask .readToken fun answer => .done (answer.mapError (Fault.ofRead method))

end Script

/-- What a slot of a dispatch table holds. -/
abbrev Implementation (method : Method) : Type :=
  method.Argument → Script method.Reply

/-- How the methods of a receiver answer. There is no outcome where calls nest too deep. -/
abbrev Calls : Type :=
  (method : Method) → method.Argument → Console → Option (Outcome Console Fault method.Reply)

/-- The outcome of a request, where its receiver's methods answer as given. An error is an answer. -/
def Request.perform (calls : Calls) :
    (request : Request) → Console → Option (Outcome Console Fault request.Answer)
  | .base method argument, console => some (Base.call method argument console).attempt
  | .call method argument, console => (calls method argument console).map Outcome.attempt
  | .write text, console => some (Console.write text console).attempt
  | .flush, console => some (Console.flush console).attempt
  | .readLine, console => some (Console.readLine console).attempt
  | .readToken, console => some (Console.readToken console).attempt

/-- The outcome of a script, where its receiver's methods answer as given. -/
def Script.run {α : Type} (calls : Calls) :
    Script α → Console → Option (Outcome Console Fault α)
  | .done result, console => some (Action.ofExcept result console)
  | .ask request next, console =>
      Outcome.andThen? (request.perform calls console) fun answer => (next answer).run calls

end RootObject
