import CityGuide.Config

namespace CityGuide.Operator

structure AdminRequest where
  email : String
  userName : String
  fullName : String
  password : String
  deriving DecidableEq, Repr

inductive Task where
  | serve
  | migrate
  | createAdmin (r : AdminRequest)
  deriving DecidableEq, Repr

inductive Wish where
  | help
  | version
  | task (t : Task)
  deriving DecidableEq, Repr

inductive AdminOption where
  | email
  | userName
  | fullName
  | password
  deriving DecidableEq, Repr

namespace AdminOption

def name : AdminOption → String
  | email => "email"
  | userName => "user-name"
  | fullName => "full-name"
  | password => "password"

def ofName? : String → Option AdminOption
  | "email" => some email
  | "user-name" => some userName
  | "full-name" => some fullName
  | "password" => some password
  | _ => none

end AdminOption

inductive Misuse where
  | unexpected (argument : String)
  | unknownTask (name : String)
  | noValue (o : AdminOption)
  | repeated (o : AdminOption)
  | missing (o : AdminOption)
  deriving DecidableEq, Repr

def Misuse.message : Misuse → String
  | unexpected argument => "unexpected argument '" ++ argument ++ "'"
  | unknownTask name => "unrecognized subcommand '" ++ name ++ "'"
  | noValue o => "a value is required for '--" ++ o.name ++ "'"
  | repeated o => "the argument '--" ++ o.name ++ "' cannot be used multiple times"
  | missing o => "the argument '--" ++ o.name ++ "' was not provided"

inductive Word where
  | escape
  | long (name : String) (value? : Option String)
  | short (first : Char)
  | plain
  deriving DecidableEq, Repr

namespace Word

def ofChars : List Char → Word
  | ['-', '-'] => escape
  | '-' :: '-' :: cs =>
      match Text.cutOnce '=' cs with
      | some (name, value) => long (String.ofList name) (some (String.ofList value))
      | none => long (String.ofList cs) none
  | '-' :: c :: _ => short c
  | _ => plain

def of (s : String) : Word := ofChars s.toList

def isPlain (s : String) : Bool := of s = plain

end Word

abbrev Given := List (AdminOption × String)

def valueOf (given : Given) (o : AdminOption) : Option String :=
  (given.find? (·.1 = o)).map (·.2)

def give (given : Given) (o : AdminOption) (value : String) : Except Misuse Given :=
  if (valueOf given o).isSome then .error (.repeated o) else .ok ((o, value) :: given)

def readOptions (given : Given) : List String → Except Misuse (Option Given)
  | [] => .ok (some given)
  | arg :: rest =>
      match Word.of arg with
      | .escape =>
          match rest with
          | [] => .ok (some given)
          | extra :: _ => .error (.unexpected extra)
      | .short 'h' => .ok none
      | .long "help" none => .ok none
      | .long name (some value) =>
          match AdminOption.ofName? name with
          | none => .error (.unexpected arg)
          | some o => (give given o value).bind fun given => readOptions given rest
      | .long name none =>
          match AdminOption.ofName? name, rest with
          | none, _ => .error (.unexpected arg)
          | some o, [] => .error (.noValue o)
          | some o, value :: rest =>
              if Word.isPlain value then
                (give given o value).bind fun given => readOptions given rest
              else .error (.noValue o)
      | .short _ | .plain => .error (.unexpected arg)
termination_by args => args.length

def needed (o : AdminOption) (value? : Option String) : Except Misuse String :=
  match value? with
  | some value => .ok value
  | none => .error (.missing o)

def defaultFullName : String := "Administrator"

def passwordVariable : String := "LOCALI_ADMIN_PASSWORD"

def adminRequest (env : Config.Environment) (given : Given) : Except Misuse AdminRequest := do
  let email ← needed .email (valueOf given .email)
  let userName ← needed .userName (valueOf given .userName)
  let password ← needed .password (valueOf given .password <|> env passwordVariable)
  .ok ⟨email, userName, (valueOf given .fullName).getD defaultFullName, password⟩

def createAdmin (env : Config.Environment) (args : List String) : Except Misuse Wish := do
  match ← readOptions [] args with
  | none => .ok .help
  | some given => (adminRequest env given).map fun r => .task (.createAdmin r)

def bare (t : Task) : List String → Except Misuse Wish
  | [] => .ok (.task t)
  | arg :: rest =>
      match Word.of arg, rest with
      | .escape, [] => .ok (.task t)
      | .escape, extra :: _ => .error (.unexpected extra)
      | .short 'h', _ | .long "help" none, _ => .ok .help
      | _, _ => .error (.unexpected arg)

def topics : List String := ["serve", "migrate", "create-admin", "help"]

def usage : String :=
  "Usage: locali [COMMAND]\n\nCommands:\n" ++
    "  serve         Run the HTTP server (default)\n" ++
    "  migrate       Apply pending database migrations and exit\n" ++
    "  create-admin  Create an admin account\n" ++
    "  help          Print this message or the help of the given subcommand(s)"

def version : String := "locali 0.1.0-devel"

def Wish.text : Wish → String
  | help => usage
  | version => Operator.version
  | task _ => ""

def helpOn : List String → Except Misuse Wish
  | [] => .ok .help
  | [topic] => if topics.contains topic then .ok .help else .error (.unknownTask topic)
  | topic :: extra :: _ => .error (.unknownTask (if topics.contains topic then extra else topic))

def read (env : Config.Environment) : List String → Except Misuse Wish
  | [] => .ok (.task .serve)
  | "serve" :: args => bare .serve args
  | "migrate" :: args => bare .migrate args
  | "create-admin" :: args => createAdmin env args
  | "help" :: args => helpOn args
  | arg :: args =>
      match Word.of arg, args with
      | .short 'V', _ | .long "version" none, _ => .ok .version
      | .plain, _ => .error (.unknownTask arg)
      | _, _ => bare .serve (arg :: args)

end CityGuide.Operator
