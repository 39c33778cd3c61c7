import SpeedTest.Log.Rule

/-!
Which entries of a log are kept. The operator may set rules of their own, separated by commas, and
the level of the program is one rule more. Of all rules about an entry the most particular decides.
-/

namespace SpeedTest.Log

/-- The rules about a log. -/
structure Filter where
  rules : List Rule
deriving Repr, DecidableEq

namespace Filter

/-- The most particular rule about an entry. Of rules that are equally particular the last one
counts. -/
def ruleFor? (f : Filter) (e : Entry) : Option Rule :=
  (f.rules.filter fun r => r.isAbout e).foldl
    (fun best r =>
      match best with
      | none => some r
      | some b => if b.outranks r then some b else some r)
    none

def keeps (f : Filter) (e : Entry) : Bool :=
  (f.ruleFor? e).any fun r => r.threshold.admits e.level

/-- The texts of the rules in a text, which commas separate. -/
def pieces (s : String) : List String :=
  let cut := s.toList.foldr
    (fun c pieces =>
      match c, pieces with
      | ',', pieces => [] :: pieces
      | c, piece :: pieces => (c :: piece) :: pieces
      | c, [] => [[c]])
    [[]]
  (cut.filter (! ·.isEmpty)).map String.ofList

/-- The rules in a text. Those that are none are passed over. -/
def rulesIn (s : String) : List Rule := (pieces s).filterMap fun p => (Rule.read p).toOption

/-- What the operator is told about the texts that are no rules, each on a line. -/
def complaints (s : String) : List String :=
  (pieces s).filterMap fun p =>
    match Rule.read p with
    | .ok _ => none
    | .error fault => some ("ignoring `" ++ p ++ "`: " ++ fault.message)

/-- The rule with the level of the program itself. -/
def levelRule (level : String) : Except Rule.Fault Rule :=
  Rule.read (programSource ++ "=" ++ level)

/-- The filter with the operator's rules and the level of the program. -/
def read (rules level : String) : Except Rule.Fault Filter :=
  (levelRule level).map fun r => ⟨rulesIn rules ++ [r]⟩

end Filter

end SpeedTest.Log
