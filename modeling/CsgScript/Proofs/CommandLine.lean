import CsgScript.Cli
/-!
# CommandLine — the argument vectors the program accepts

The arguments are read from left to right as options: `-v`/`--verbose` and `-h`/`--help` stand
alone, and `-c`/`--config` and `--manifest` take the next argument as their file, whatever it
looks like.  So an argument vector reads as a run of options (`Item`) and an end (`Ending`):
nothing more, an argument that names no option together with all that follows it, or a file
option with nothing after it.  Every argument vector reads so in exactly one way
(`exists_reading`, `Reading.args_inj`): a run of options is prefix-free, its first argument
saying how many arguments an option takes.

Reading the arguments gives the outcome of that reading (`parseArgs_args`): the last file given to
each file option and the flags that appear, or the complaint about the end — the unknown
argument, or the file option that lacks its file.  Each option is one step of the reader
(`parseFrom_tokens_append`), and the options it records are those of the run
(`foldl_record`).
-/
namespace CsgScript
namespace Cli

/-! ### The grammar -/

/-- The options that take a file, in the spelling they are given in. -/
inductive FileOption where
  | config (long : Bool)
  | manifest
  deriving DecidableEq, Repr

/-- How a file option is written. -/
def FileOption.token : FileOption → String
  | .config false => "-c"
  | .config true => "--config"
  | .manifest => "--manifest"

/-- How a complaint names a file option, whichever spelling it was given in. -/
def FileOption.usage : FileOption → String
  | .config _ => "-c/--config"
  | .manifest => "--manifest"

/-- One option as the arguments give it, in the spelling it is given in. -/
inductive Item where
  | verbose (long : Bool)
  | help (long : Bool)
  | file (o : FileOption) (path : String)
  deriving DecidableEq, Repr

/-- The arguments an option stands for: its name, then its file if it takes one. -/
def Item.tokens : Item → List String
  | .verbose long => [if long then "--verbose" else "-v"]
  | .help long => [if long then "--help" else "-h"]
  | .file o path => [o.token, path]

/-- The arguments that name an option. -/
def optionNames : List String := ["-v", "--verbose", "-h", "--help", "-c", "--config", "--manifest"]

/-- How the arguments after the last option end. -/
inductive Ending where
  /-- Nothing follows. -/
  | complete
  /-- An argument that names no option, and whatever follows it. -/
  | unknown (arg : String) (rest : List String) (unnamed : arg ∉ optionNames)
  /-- A file option with no argument after it. -/
  | missing (o : FileOption)

/-- The arguments an ending stands for. -/
def Ending.tokens : Ending → List String
  | .complete => []
  | .unknown arg rest _ => arg :: rest
  | .missing o => [o.token]

/-- An argument vector read as options and an end. -/
structure Reading where
  items : List Item
  ending : Ending

/-- The arguments a reading stands for. -/
def Reading.args (r : Reading) : List String := r.items.flatMap Item.tokens ++ r.ending.tokens

/-- The file an option gives to `-c`/`--config`, if it is that option. -/
def Item.config? : Item → Option String
  | .file (.config _) path => some path
  | _ => none

/-- The file an option gives to `--manifest`, if it is that option. -/
def Item.manifest? : Item → Option String
  | .file .manifest path => some path
  | _ => none

/-- Whether an option is `-v` or `--verbose`. -/
def Item.isVerbose : Item → Bool
  | .verbose _ => true
  | _ => false

/-- Whether an option is `-h` or `--help`. -/
def Item.isHelp : Item → Bool
  | .help _ => true
  | _ => false

/-- The options a run of options asks for: the file of the last `-c`/`--config` and of the last
`--manifest`, and each flag that appears. -/
def Options.ofItems (items : List Item) : Options where
  config := (items.filterMap Item.config?).getLast?
  manifest := (items.filterMap Item.manifest?).getLast?
  verbose := items.any Item.isVerbose
  help := items.any Item.isHelp

/-- What reading the arguments gives: the options the run asks for when nothing follows it, else
the complaint about the end. -/
def Reading.outcome (r : Reading) : Except String Options :=
  match r.ending with
  | .complete => .ok (Options.ofItems r.items)
  | .unknown arg _ _ => .error ("Unknown option: " ++ arg)
  | .missing o => .error (o.usage ++ " requires an argument")

/-! ### One option, one step -/

/-- What reading one option records. -/
def Options.record (o : Options) : Item → Options
  | .verbose _ => { o with verbose := true }
  | .help _ => { o with help := true }
  | .file (.config _) path => { o with config := some path }
  | .file .manifest path => { o with manifest := some path }

theorem parseFrom_tokens_append (o : Options) (i : Item) (rest : List String) :
    parseFrom o (i.tokens ++ rest) = parseFrom (o.record i) rest := by
  rcases i with (_ | _) | (_ | _) | ((_ | _) | _) <;> rw [Item.tokens, parseFrom.eq_def] <;>
    simp [FileOption.token, Options.record]

/-- **A run of options is read one option after another.** -/
theorem parseFrom_flatMap_append (items : List Item) :
    ∀ (o : Options) (rest : List String),
      parseFrom o (items.flatMap Item.tokens ++ rest) = parseFrom (items.foldl Options.record o) rest := by
  induction items with
  | nil => intro o rest; rfl
  | cons i items ih =>
    intro o rest
    rw [List.flatMap_cons, List.append_assoc, parseFrom_tokens_append, ih, List.foldl_cons]

/-- The options recorded over a run: the last file of each file option wins over what was there
before, and a flag stays set once set. -/
theorem foldl_record (items : List Item) :
    ∀ o : Options, items.foldl Options.record o =
      { config := (items.filterMap Item.config?).getLast?.or o.config
        manifest := (items.filterMap Item.manifest?).getLast?.or o.manifest
        verbose := items.any Item.isVerbose || o.verbose
        help := items.any Item.isHelp || o.help } := by
  induction items with
  | nil => intro o; rfl
  | cons i items ih =>
    intro o
    rw [List.foldl_cons, ih]
    rcases i with _ | _ | ((_ | _) | _) <;>
      simp only [Options.record, Item.config?, Item.manifest?, Item.isVerbose, Item.isHelp,
        List.filterMap_cons, List.any_cons, List.getLast?_cons, Option.or_some, Option.some_or,
        Bool.or_true, Bool.true_or, Bool.false_or]

theorem foldl_record_default (items : List Item) :
    items.foldl Options.record {} = Options.ofItems items := by
  rw [foldl_record]
  simp [Options.ofItems]

/-! ### How the reader ends -/

theorem parseFrom_unknown {arg : String} (unnamed : arg ∉ optionNames) (o : Options) (rest : List String) :
    parseFrom o (arg :: rest) = .error (.unknownOption arg) := by
  simp only [optionNames, List.mem_cons, List.not_mem_nil, or_false, not_or] at unnamed
  obtain ⟨hv, hverbose, hh, hhelp, hc, hconfig, hmanifest⟩ := unnamed
  rw [parseFrom.eq_def]
  simp [hv, hverbose, hh, hhelp, hc, hconfig, hmanifest]

theorem parseFrom_missing (o : Options) (f : FileOption) :
    parseFrom o [f.token] = .error (.missingOperand f.usage) := by
  rcases f with (_ | _) | _ <;> simp [FileOption.token, FileOption.usage, parseFrom]

/-- **Reading the arguments gives the outcome of their reading.** -/
theorem parseArgs_args (r : Reading) : (parseArgs r.args).mapError Fault.text = r.outcome := by
  obtain ⟨items, ending⟩ := r
  rw [parseArgs, Reading.args, parseFrom_flatMap_append, foldl_record_default]
  cases ending with
  | complete => rfl
  | unknown arg rest unnamed =>
    rw [Ending.tokens, parseFrom_unknown unnamed]
    rfl
  | missing f =>
    rw [Ending.tokens, parseFrom_missing]
    rfl

-- an operand is taken whatever it looks like, and the last one given counts
example : ((parseArgs ["--manifest", "-v", "-c", "a", "--config", "b"]).toOption.map
    fun o => (o.manifest, o.config, o.verbose)) = some (some "-v", some "b", false) := by
  decide

/-- Every fault of the reader is one of the environment: each of its three ends names its own. -/
theorem kind_of_parseFrom_eq_error {o : Options} {args : List String} {f : Fault}
    (h : parseFrom o args = .error f) : f.kind = .environment := by
  fun_induction parseFrom o args <;> simp_all
  all_goals subst h; rfl

/-! ### Every argument vector reads in one way -/

theorem Item.head_mem_optionNames (i : Item) (rest : List String) :
    ∃ name more, i.tokens ++ rest = name :: more ∧ name ∈ optionNames := by
  rcases i with (_ | _) | (_ | _) | ((_ | _) | _) <;> simp [Item.tokens, FileOption.token, optionNames]

/-- The first argument of an option says which option it is and how many arguments it takes, so
a run of options is prefix-free. -/
theorem Item.tokens_append_inj {i j : Item} {rest rest' : List String}
    (h : i.tokens ++ rest = j.tokens ++ rest') : i = j ∧ rest = rest' := by
  rcases i with (_ | _) | (_ | _) | ((_ | _) | _) <;> rcases j with (_ | _) | (_ | _) | ((_ | _) | _) <;>
    simp_all [Item.tokens, FileOption.token]

/-- No ending begins as an option does: an unknown argument names no option, and a lone file option
is one argument where a file option stands for two and a flag names no file option. -/
theorem Ending.tokens_ne_item_append (e : Ending) (i : Item) (rest : List String) :
    e.tokens ≠ i.tokens ++ rest := by
  obtain ⟨name, more, hi, hname⟩ := i.head_mem_optionNames rest
  intro h
  cases e with
  | complete => simp [Ending.tokens, hi] at h
  | unknown arg more' unnamed =>
    rw [Ending.tokens, hi, List.cons.injEq] at h
    exact unnamed (h.1 ▸ hname)
  | missing f =>
    rcases f with (_ | _) | _ <;> rcases i with (_ | _) | (_ | _) | ((_ | _) | _) <;>
      simp [Ending.tokens, Item.tokens, FileOption.token] at h

theorem FileOption.token_mem_optionNames (f : FileOption) : f.token ∈ optionNames := by
  rcases f with (_ | _) | _ <;> simp [FileOption.token, optionNames]

theorem FileOption.token_inj {f f' : FileOption} (h : f.token = f'.token) : f = f' := by
  rcases f with (_ | _) | _ <;> rcases f' with (_ | _) | _ <;> simp_all [FileOption.token]

theorem Ending.tokens_inj {e e' : Ending} (h : e.tokens = e'.tokens) : e = e' := by
  cases e with
  | complete => cases e' <;> simp_all [Ending.tokens]
  | unknown arg rest unnamed =>
    cases e' with
    | complete => simp [Ending.tokens] at h
    | unknown arg' rest' _ =>
      simp only [Ending.tokens, List.cons.injEq] at h
      obtain ⟨rfl, rfl⟩ := h
      rfl
    | missing f =>
      simp only [Ending.tokens, List.cons.injEq] at h
      exact absurd (h.1 ▸ f.token_mem_optionNames) unnamed
  | missing f =>
    cases e' with
    | complete => simp [Ending.tokens] at h
    | unknown arg' rest' unnamed =>
      simp only [Ending.tokens, List.cons.injEq] at h
      exact absurd (h.1 ▸ f.token_mem_optionNames) unnamed
    | missing f' =>
      simp only [Ending.tokens, List.cons.injEq, and_true] at h
      rw [FileOption.token_inj h]

/-- **An argument vector reads as options and an end in one way only.** -/
theorem Reading.args_inj {r r' : Reading} (h : r.args = r'.args) : r = r' := by
  obtain ⟨items, ending⟩ := r
  obtain ⟨items', ending'⟩ := r'
  simp only [Reading.args] at h
  induction items generalizing items' with
  | nil =>
    cases items' with
    | nil => rw [Ending.tokens_inj h]
    | cons j items' =>
      rw [List.flatMap_cons, List.append_assoc] at h
      exact absurd h (ending.tokens_ne_item_append j _)
  | cons i items ih =>
    cases items' with
    | nil =>
      rw [List.flatMap_cons, List.append_assoc] at h
      exact absurd h.symm (ending'.tokens_ne_item_append i _)
    | cons j items' =>
      rw [List.flatMap_cons, List.flatMap_cons, List.append_assoc, List.append_assoc] at h
      obtain ⟨rfl, hrest⟩ := Item.tokens_append_inj h
      obtain ⟨rfl, rfl⟩ := Reading.mk.inj (ih items' hrest)
      rfl

/-- Prepending an option to a reading. -/
def Reading.cons (i : Item) (r : Reading) : Reading := ⟨i :: r.items, r.ending⟩

theorem Reading.args_cons (i : Item) (r : Reading) : (r.cons i).args = i.tokens ++ r.args := by
  simp [Reading.cons, Reading.args]

/-- **Every argument vector reads as options and an end**, following the reader's own steps. -/
theorem exists_reading (args : List String) : ∃ r : Reading, r.args = args := by
  fun_induction parseFrom {} args with
  | case1 => exact ⟨⟨[], .complete⟩, rfl⟩
  | case2 o arg rest hflag ih =>
    obtain ⟨r, hr⟩ := ih
    rcases hflag with rfl | rfl
    · exact ⟨r.cons (.verbose false), by simp [Reading.args_cons, hr, Item.tokens]⟩
    · exact ⟨r.cons (.verbose true), by simp [Reading.args_cons, hr, Item.tokens]⟩
  | case3 o arg rest _ hflag ih =>
    obtain ⟨r, hr⟩ := ih
    rcases hflag with rfl | rfl
    · exact ⟨r.cons (.help false), by simp [Reading.args_cons, hr, Item.tokens]⟩
    · exact ⟨r.cons (.help true), by simp [Reading.args_cons, hr, Item.tokens]⟩
  | case4 o arg _ _ hconfig file more ih =>
    obtain ⟨r, hr⟩ := ih
    rcases hconfig with rfl | rfl
    · exact ⟨r.cons (.file (.config false) file), by simp [Reading.args_cons, hr, Item.tokens, FileOption.token]⟩
    · exact ⟨r.cons (.file (.config true) file), by simp [Reading.args_cons, hr, Item.tokens, FileOption.token]⟩
  | case5 o arg _ _ hconfig =>
    rcases hconfig with rfl | rfl
    · exact ⟨⟨[], .missing (.config false)⟩, rfl⟩
    · exact ⟨⟨[], .missing (.config true)⟩, rfl⟩
  | case6 o file more _ _ _ ih =>
    obtain ⟨r, hr⟩ := ih
    exact ⟨r.cons (.file .manifest file), by simp [Reading.args_cons, hr, Item.tokens, FileOption.token]⟩
  | case7 o _ _ _ => exact ⟨⟨[], .missing .manifest⟩, rfl⟩
  | case8 o arg rest hv hh hc hm =>
    refine ⟨⟨[], .unknown arg rest ?_⟩, rfl⟩
    simp only [not_or] at hv hh hc
    simp only [optionNames, List.mem_cons, List.not_mem_nil, or_false, not_or]
    exact ⟨hv.1, hv.2, hh.1, hh.2, hc.1, hc.2, hm⟩

/-- **The command line accepts exactly its option grammar.**  Every argument vector reads in one
way as a run of options and an end; reading it gives the options of the run when nothing follows,
and otherwise fails, as a fault of the environment, with the complaint about the end: the first
argument that names no option, or the file option that lacks its file. -/
theorem parseArgs_follows_grammar (args : List String) :
    ∃ r : Reading, r.args = args ∧ (∀ r' : Reading, r'.args = args → r' = r) ∧
      (parseArgs args).mapError Fault.text = r.outcome ∧
      ∀ f, parseArgs args = .error f → f.kind = .environment := by
  obtain ⟨r, rfl⟩ := exists_reading args
  exact ⟨r, rfl, fun r' h => Reading.args_inj h, parseArgs_args r, fun f h => kind_of_parseFrom_eq_error h⟩

end Cli
end CsgScript
