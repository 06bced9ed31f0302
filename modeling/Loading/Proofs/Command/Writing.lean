import Loading.Command.Arguments
import Mathlib.Data.List.TakeWhile

/-!
# Writing command lines

Options may be written in any order, each value in a word of its own or behind a `=`, and the
flag of a command before its name or behind it.  However a command line is written, it is read
as what was written: a value is taken for a value whatever it spells, and nothing else is.

* `Word.read_plain`, `Word.read_option` — what the words look like.
* `Mention` — an option as it is written; `Options.WrittenAs` — all options, in some order.
* `Arguments.parseFrom_words` — one mention is read; `Arguments.parseFrom_mentions` — all are.
* `Options.Completes.takeAll` — mentions of all that is missing make up the options.
* `Arguments.parse_written` — every command line is read as it was written.
-/

namespace Loading

/-! ## Words -/

namespace Word

variable {w name : String}

/-- A word that does not begin like an option is none. -/
theorem read_plain (h : Text.startsWith w "-" = false) : read w = .plain w := by
  have hhead : ∀ rest, w.toList ≠ '-' :: rest := by
    intro rest heq
    have hdash : "-".toList = ['-'] := by decide
    simp [Text.startsWith, hdash, heq] at h
  unfold read
  split
  · rename_i heq
    exact absurd heq (hhead _)
  · rename_i heq
    exact absurd heq (hhead _)
  · rename_i heq
    exact absurd heq (hhead _)
  · rfl

/-- What stands behind two dashes is divided, if it is anything at all. -/
theorem read_dashes (rest : List Char) (h : rest ≠ []) (hw : w.toList = '-' :: '-' :: rest) :
    read w = ofLong rest := by
  unfold read
  rw [hw]
  cases rest with
  | nil => exact absurd rfl h
  | cons c rest => rfl

/-- The name of an option in a word of its own, or with a value that may hold a `=`, too. -/
theorem read_option (hne : name ≠ "") (hname : '=' ∉ name.toList) :
    read ("--" ++ name) = .long name none ∧
      ∀ value, read ("--" ++ name ++ "=" ++ value) = .long name (some value) := by
  have hdashes : "--".toList = ['-', '-'] := by decide
  have hequals : "=".toList = ['='] := by decide
  have hkeep : ∀ c ∈ name.toList, decide (c ≠ '=') = true := by
    intro c hc
    simpa using fun heq : c = '=' => hname (heq ▸ hc)
  refine ⟨?_, fun value => ?_⟩
  · rw [read_dashes name.toList (by simpa using hne) (by simp [hdashes])]
    unfold ofLong
    rw [List.takeWhile_eq_self_iff.2 hkeep, List.dropWhile_eq_nil_iff.2 hkeep]
    simp
  · rw [read_dashes (name.toList ++ '=' :: value.toList) (by simp)
      (by simp [hdashes, hequals])]
    unfold ofLong
    rw [List.takeWhile_append_of_pos hkeep, List.dropWhile_append_of_pos hkeep]
    simp

end Word

/-! ## Options as they are written -/

namespace ValueOption

/-- An option is known by its name. -/
theorem ofName?_name (option : ValueOption) : ofName? option.name = some option := by
  cases option <;> decide

theorem name_ne_empty (option : ValueOption) : option.name ≠ "" := by
  cases option <;> decide

theorem equals_not_mem_name (option : ValueOption) : '=' ∉ option.name.toList := by
  cases option <;> decide

end ValueOption

/-- One option as it is written. -/
inductive Mention where
  /-- A value: in one word with the name of its option, or in the next one. -/
  | value (option : ValueOption) (text : String) (joined : Bool)
  /-- The flag that permits the reserved prefix. -/
  | allow
  deriving Repr, DecidableEq

namespace Mention

/-- The words of a mention. -/
def words : Mention → List String
  | .value option text true => ["--" ++ option.name ++ "=" ++ text]
  | .value option text false => ["--" ++ option.name, text]
  | .allow => ["--" ++ allowFlag]

/-- The value that is given to an option. -/
def text? (option : ValueOption) : Mention → Option String
  | .value option' text _ => if option' = option then some text else none
  | .allow => none

/-- The values that some mentions give to an option, in order. -/
def texts (option : ValueOption) (ms : List Mention) : List String :=
  ms.filterMap (text? option)

end Mention

namespace Options

/-- The values of an option. -/
def values (o : Options) : ValueOption → List String
  | .layer => o.layers
  | .libraryDir => o.libraryDir.toList
  | .systemLibraryPath => o.systemLibraryPath.toList
  | .libraryPath => o.libraryPath.toList

/-- The mentions, in whatever order, say what the options are: each value of each option,
values of one option in their order, and the flag if it is set. -/
structure WrittenAs (o : Options) (ms : List Mention) : Prop where
  /-- The values of each option. -/
  texts : ∀ option, Mention.texts option ms = o.values option
  /-- The flag. -/
  flag : ms.count .allow = o.allowReservedPrefix.toNat

/-- The options after one more mention. -/
def take (o : Options) : Mention → Except UsageError Options
  | .value option text _ => o.give option text
  | .allow =>
      if o.allowReservedPrefix then .error .conflict
      else .ok { o with allowReservedPrefix := true }

/-- The options after some mentions. -/
def takeAll (o : Options) (ms : List Mention) : Except UsageError Options :=
  ms.foldlM take o

end Options

/-! ## Commands as they are written -/

namespace Verb

/-- A verb is known by its word. -/
theorem ofWord?_word (verb : Verb) : ofWord? verb.word = some verb := by
  cases verb <;> decide

/-- No verb looks like an option or asks for help. -/
theorem word_plain (verb : Verb) :
    Text.startsWith verb.word "-" = false ∧ verb.word ≠ helpFlag := by
  cases verb <;> decide

/-- The flag of a verb is read as one, and does not ask for help. -/
theorem read_flagName (verb : Verb) :
    ∀ n ∈ verb.flagName, n ≠ helpFlag ∧ Word.read ("--" ++ n) = .long n none := by
  cases verb <;> decide

end Verb

namespace Command

/-- The verb of a command. -/
def verb : Command → Verb
  | .resolve _ _ => .resolve
  | .loadLibrary _ => .loadLibrary
  | .resource _ _ => .resource

/-- The name that a command is about. -/
def operand : Command → String
  | .resolve name _ => name
  | .loadLibrary name => name
  | .resource name _ => name

/-- Is the flag of a command set? -/
def flagged : Command → Bool
  | .resolve _ link => link
  | .loadLibrary _ => false
  | .resource _ all => all

/-- The name of the flag of a command, if it is set. -/
def flag? (c : Command) : Option String :=
  if c.flagged then c.verb.flagName else none

/-- A name with a flag before it or behind it. -/
def behind (flag? : Option String) (name : String) (flagFirst : Bool) : List String :=
  let flags := flag?.toList.map fun flag => "--" ++ flag
  if flagFirst then flags ++ [name] else name :: flags

/-- The words of a command. -/
def words (c : Command) (flagFirst : Bool) : List String :=
  c.verb.word :: behind c.flag? c.operand flagFirst

end Command

/-! ## Reading commands -/

section Commands

variable {flagName name flag? : Option String} {flag : Bool} {w n : String} {rest : List String}

theorem readOperands_operand (h : Text.startsWith w "-" = false) :
    readOperands flagName none flag (w :: rest) = readOperands flagName (some w) flag rest := by
  rw [readOperands, Word.read_plain h]

theorem readOperands_flag (h : Word.read w = .long n none) (hhelp : n ≠ helpFlag) :
    readOperands (some n) name false (w :: rest) = readOperands (some n) name true rest := by
  rw [readOperands, h]
  simp [hhelp]

/-- A name is read with the flag that is set, on whichever side of the name it stands. -/
theorem readOperands_behind (hname : Text.startsWith w "-" = false)
    (hflag : ∀ n ∈ flag?, flagName = some n ∧ n ≠ helpFlag ∧
      Word.read ("--" ++ n) = .long n none) (flagFirst : Bool) :
    readOperands flagName none false (Command.behind flag? w flagFirst) =
      .ok (w, flag?.isSome) := by
  cases flag? with
  | none =>
      have hsingle : Command.behind none w flagFirst = [w] := by cases flagFirst <;> rfl
      rw [hsingle, readOperands_operand hname]
      rfl
  | some n =>
      obtain ⟨rfl, hhelp, hread⟩ := hflag n rfl
      cases flagFirst with
      | true =>
          show readOperands (some n) none false ["--" ++ n, w] = _
          rw [readOperands_flag hread hhelp, readOperands_operand hname]
          rfl
      | false =>
          show readOperands (some n) none false [w, "--" ++ n] = _
          rw [readOperands_operand hname, readOperands_flag hread hhelp]
          rfl

/-- A command consists of its verb, its name and its flag. -/
theorem Command.command_verb (c : Command) : c.verb.command c.operand c.flagged = c := by
  cases c <;> rfl

/-- A flag is set if and only if there is a word for it. -/
theorem Command.isSome_flag? (c : Command) : c.flag?.isSome = c.flagged := by
  cases c with
  | resolve name link => cases link <;> rfl
  | loadLibrary name => rfl
  | resource name all => cases all <;> rfl

/-- A flag that is set is one that the command knows. -/
theorem Command.flagName_of_flag? (c : Command) :
    ∀ n ∈ c.flag?, c.verb.flagName = some n ∧ n ≠ helpFlag ∧
      Word.read ("--" ++ n) = .long n none := by
  intro n hn
  obtain ⟨-, hflag⟩ := Option.ite_none_right_eq_some.1 hn
  exact ⟨hflag, c.verb.read_flagName n hflag⟩

/-- What stands behind the verb of a command is read as that command. -/
theorem Command.read_behind (c : Command) (h : Text.startsWith c.operand "-" = false)
    (flagFirst : Bool) : c.verb.read (behind c.flag? c.operand flagFirst) = .ok c := by
  unfold Verb.read
  rw [readOperands_behind h c.flagName_of_flag? flagFirst, c.isSome_flag?]
  exact congrArg Except.ok c.command_verb

end Commands

/-! ## Reading options -/

namespace Arguments

variable {o o₁ o₂ : Options} {awaited : Awaited} {w : String} {rest : List String}

/-- A word without dashes is the value that is awaited, or a command. -/
theorem parseFrom_plain {text : String} (h : Word.read w = .plain text) :
    parseFrom o awaited (w :: rest) =
      match awaited with
      | some (option, none) => parseFrom o (some (option, some text)) rest
      | _ => readCommand o awaited text rest := by
  have heq := parseFrom.eq_def o awaited (w :: rest)
  dsimp only at heq
  rw [h] at heq
  exact heq

/-- An option without a value settles what is awaited, and its value is awaited in turn. -/
theorem parseFrom_apart {option : ValueOption} (h : Word.read w = .long option.name none)
    (hsettle : o.settle awaited = .ok o₁) :
    parseFrom o awaited (w :: rest) = parseFrom o₁ (some (option, none)) rest := by
  rw [parseFrom.eq_def]
  dsimp only
  rw [h]
  dsimp only
  rw [ValueOption.ofName?_name, hsettle]
  rfl

/-- An option with a value settles what is awaited, and the value is given at once. -/
theorem parseFrom_joined {option : ValueOption} {value : String}
    (h : Word.read w = .long option.name (some value)) (hsettle : o.settle awaited = .ok o₁)
    (hgive : o₁.give option value = .ok o₂) :
    parseFrom o awaited (w :: rest) = parseFrom o₂ none rest := by
  rw [parseFrom.eq_def]
  dsimp only
  rw [h]
  dsimp only
  rw [ValueOption.ofName?_name, hsettle]
  show (o₁.give option value >>= fun o => parseFrom o none rest) = _
  rw [hgive]
  rfl

/-- The flag settles what is awaited, too, and is taken once. -/
theorem parseFrom_allow (hsettle : o.settle awaited = .ok o₁) :
    parseFrom o awaited (("--" ++ allowFlag) :: rest) =
      if o₁.allowReservedPrefix then .error .conflict
      else parseFrom { o₁ with allowReservedPrefix := true } none rest := by
  have hread : Word.read ("--" ++ allowFlag) = .long allowFlag none := by decide
  have hnone : ValueOption.ofName? allowFlag = none := by decide
  have hhelp : allowFlag ≠ helpFlag := by decide
  rw [parseFrom.eq_def]
  dsimp only
  rw [hread]
  dsimp only
  rw [hnone, hsettle]
  simp only [hhelp, false_or, if_true, Option.isSome_none, Bool.false_eq_true, if_false]
  rfl

/-- What is awaited is settled when a command comes, and the command is read. -/
theorem parseFrom_command (h : o.settle awaited = .ok o₁) {c : Command}
    (hname : Text.startsWith c.operand "-" = false) (flagFirst : Bool) :
    parseFrom o awaited (c.words flagFirst) = .ok ⟨o₁, c⟩ := by
  obtain ⟨hplain, hhelp⟩ := c.verb.word_plain
  have hcommand : readCommand o awaited c.verb.word
      (Command.behind c.flag? c.operand flagFirst) = .ok ⟨o₁, c⟩ := by
    unfold readCommand
    rw [if_neg hhelp, c.verb.ofWord?_word]
    dsimp only
    rw [c.read_behind hname flagFirst, h]
    rfl
  unfold Command.words
  rw [parseFrom_plain (Word.read_plain hplain)]
  match awaited, h with
  | none, _ => exact hcommand
  | some (_, some _), _ => exact hcommand

/-- The words of a mention are read: what was awaited takes effect, and after that the mention
does, or is awaited. -/
theorem parseFrom_words (rest : List String) (h : o.settle awaited = .ok o₁) {m : Mention}
    (h₁ : o₁.take m = .ok o₂)
    (hplain : ∀ option, ∀ text ∈ m.text? option, Text.startsWith text "-" = false) :
    ∃ o' awaited', parseFrom o awaited (m.words ++ rest) = parseFrom o' awaited' rest ∧
      o'.settle awaited' = .ok o₂ := by
  cases m with
  | value option text joined =>
      have hread := Word.read_option option.name_ne_empty option.equals_not_mem_name
      have hgive : o₁.give option text = .ok o₂ := h₁
      cases joined with
      | true =>
          refine ⟨o₂, none, ?_, rfl⟩
          show parseFrom o awaited (("--" ++ option.name ++ "=" ++ text) :: rest) = _
          exact parseFrom_joined (hread.2 text) h hgive
      | false =>
          refine ⟨o₁, some (option, some text), ?_, hgive⟩
          have htext := hplain option text (if_pos rfl)
          show parseFrom o awaited (("--" ++ option.name) :: text :: rest) = _
          rw [parseFrom_apart hread.1 h, parseFrom_plain (Word.read_plain htext)]
  | allow =>
      unfold Options.take at h₁
      dsimp only at h₁
      split at h₁
      · cases h₁
      · rename_i hallow
        obtain rfl := Except.ok.inj h₁
        refine ⟨_, none, ?_, rfl⟩
        show parseFrom o awaited (("--" ++ allowFlag) :: rest) = _
        rw [parseFrom_allow h, if_neg hallow]

/-- The words of any number of mentions are read, one mention after the other. -/
theorem parseFrom_mentions (ms : List Mention) (rest : List String)
    (h : o.settle awaited = .ok o₁) (h₁ : o₁.takeAll ms = .ok o₂)
    (hplain : ∀ m ∈ ms, ∀ option, ∀ text ∈ m.text? option, Text.startsWith text "-" = false) :
    ∃ o' awaited',
      parseFrom o awaited (ms.flatMap Mention.words ++ rest) = parseFrom o' awaited' rest ∧
        o'.settle awaited' = .ok o₂ := by
  induction ms generalizing o o₁ awaited with
  | nil =>
      obtain rfl := Except.ok.inj h₁
      exact ⟨o, awaited, rfl, h⟩
  | cons m ms ih =>
      obtain ⟨o', hm, hms⟩ : ∃ o', o₁.take m = .ok o' ∧ o'.takeAll ms = .ok o₂ := by
        have hbind : (o₁.take m >>= fun o' => o'.takeAll ms) = .ok o₂ := h₁
        cases htake : o₁.take m with
        | error e => rw [htake] at hbind; cases hbind
        | ok o' => exact ⟨o', rfl, by rwa [htake] at hbind⟩
      obtain ⟨p, waiting, hread, hsettle⟩ := parseFrom_words (ms.flatMap _ ++ rest) h hm
        (hplain m List.mem_cons_self)
      obtain ⟨q, waiting', hrest, hend⟩ := ih hsettle hms fun m hm => hplain m
        (List.mem_cons_of_mem _ hm)
      refine ⟨q, waiting', ?_, hend⟩
      rw [List.flatMap_cons, List.append_assoc, hread, hrest]

end Arguments

/-! ## Mentions make up the options -/

namespace Options

variable {o o' : Options} {ms : List Mention} {option : ValueOption} {text : String}

/-- Options with the same values and the same flag are the same. -/
theorem eq_of_values (h : ∀ option, o.values option = o'.values option)
    (hflag : o.allowReservedPrefix.toNat = o'.allowReservedPrefix.toNat) : o = o' := by
  obtain ⟨layers, dir, system, user, allow⟩ := o
  obtain ⟨layers', dir', system', user', allow'⟩ := o'
  have hoption : ∀ {x y : Option String}, x.toList = y.toList → x = y :=
    fun heq => by simpa using congrArg List.head? heq
  obtain rfl : layers = layers' := h .layer
  obtain rfl : dir = dir' := hoption (h .libraryDir)
  obtain rfl : system = system' := hoption (h .systemLibraryPath)
  obtain rfl : user = user' := hoption (h .libraryPath)
  obtain rfl : allow = allow' := by cases allow <;> cases allow' <;> simp_all
  rfl

/-- Where there is at most one value, another one comes first. -/
theorem eq_none_of_toList_append {x y : Option String} {more : List String}
    (h : x.toList ++ text :: more = y.toList) : x = none := by
  cases x with
  | none => rfl
  | some a => cases y <;> simp at h

/-- A value that completes an option is given to that option, and to no other. -/
theorem give_eq (hne : text ≠ "") {more : List String}
    (h : o.values option ++ text :: more = o'.values option) :
    ∃ o₁, o.give option text = .ok o₁ ∧ o₁.allowReservedPrefix = o.allowReservedPrefix ∧
      ∀ other, o₁.values other = o.values other ++ if option = other then [text] else [] := by
  have hempty : text.isEmpty = false := by simpa using hne
  cases option with
  | layer =>
      refine ⟨{ o with layers := o.layers ++ [text] }, ?_, rfl, ?_⟩
      · simp [give, hempty]
      · intro other
        cases other <;> simp [values]
  | libraryDir =>
      have hnone : o.libraryDir = none := eq_none_of_toList_append h
      refine ⟨{ o with libraryDir := some text }, ?_, rfl, ?_⟩
      · simp [give, once, hnone, hempty, bind, Except.bind]
      · intro other
        cases other <;> simp [values, hnone]
  | systemLibraryPath =>
      have hnone : o.systemLibraryPath = none := eq_none_of_toList_append h
      refine ⟨{ o with systemLibraryPath := some text }, ?_, rfl, ?_⟩
      · simp [give, once, hnone, bind, Except.bind]
      · intro other
        cases other <;> simp [values, hnone]
  | libraryPath =>
      have hnone : o.libraryPath = none := eq_none_of_toList_append h
      refine ⟨{ o with libraryPath := some text }, ?_, rfl, ?_⟩
      · simp [give, once, hnone, bind, Except.bind]
      · intro other
        cases other <;> simp [values, hnone]

/-- Some mentions say what is still missing of the options. -/
structure Completes (o : Options) (ms : List Mention) (o' : Options) : Prop where
  /-- The values that are missing, in order. -/
  texts : ∀ option, o.values option ++ Mention.texts option ms = o'.values option
  /-- The flag, if it is missing. -/
  flag : o.allowReservedPrefix.toNat + ms.count .allow = o'.allowReservedPrefix.toNat

/-- A mention of what is missing is taken, and the rest of the mentions says what is missing
then. -/
theorem Completes.take {m : Mention} (h : o.Completes (m :: ms) o')
    (hne : ∀ option, ∀ text ∈ m.text? option, text ≠ "") :
    ∃ o₁, o.take m = .ok o₁ ∧ o₁.Completes ms o' := by
  cases m with
  | value option text joined =>
      have hcons : ∀ other, Mention.texts other (.value option text joined :: ms) =
          (if option = other then [text] else []) ++ Mention.texts other ms := by
        intro other
        unfold Mention.texts
        by_cases hother : option = other <;> simp [Mention.text?, hother]
      have hmissing := h.texts option
      rw [hcons, if_pos rfl] at hmissing
      obtain ⟨o₁, hgive, hallow, hvalues⟩ := give_eq (hne option text (if_pos rfl)) hmissing
      refine ⟨o₁, hgive, fun other => ?_, ?_⟩
      · rw [hvalues, List.append_assoc, ← hcons]
        exact h.texts other
      · rw [hallow, ← h.flag, List.count_cons_of_ne (by exact nofun)]
  | allow =>
      have hflag := h.flag
      rw [List.count_cons_self] at hflag
      have hallow : o.allowReservedPrefix = false := by
        cases hset : o.allowReservedPrefix with
        | false => rfl
        | true =>
            have hle := o'.allowReservedPrefix.toNat_le
            rw [hset, Bool.toNat_true] at hflag
            omega
      refine ⟨{ o with allowReservedPrefix := true }, ?_, h.texts, ?_⟩
      · show (if o.allowReservedPrefix then _ else _) = _
        rw [hallow, if_neg Bool.false_ne_true]
      · rw [← hflag, hallow, Bool.toNat_true, Bool.toNat_false]
        omega

/-- Mentions of all that is missing make up the options. -/
theorem Completes.takeAll (h : o.Completes ms o')
    (hne : ∀ m ∈ ms, ∀ option, ∀ text ∈ m.text? option, text ≠ "") :
    o.takeAll ms = .ok o' := by
  induction ms generalizing o with
  | nil =>
      have hvalues : ∀ option, o.values option = o'.values option := fun option => by
        simpa [Mention.texts] using h.texts option
      exact congrArg _ (eq_of_values hvalues (by simpa using h.flag))
  | cons m ms ih =>
      obtain ⟨o₁, htake, hrest⟩ := h.take (hne m List.mem_cons_self)
      show (o.take m >>= fun o₁ => o₁.takeAll ms) = _
      rw [htake]
      exact ih hrest fun m hm => hne m (List.mem_cons_of_mem _ hm)

theorem WrittenAs.completes (h : o.WrittenAs ms) : Completes {} ms o where
  texts option := by
    rw [← h.texts option]
    cases option <;> rfl
  flag := by
    rw [← h.flag]
    exact Nat.zero_add _

/-- The mentions of some options, one option after the other. -/
def mentions (o : Options) : List Mention :=
  (ValueOption.all.flatMap fun option =>
      (o.values option).map fun text => .value option text false) ++
    List.replicate o.allowReservedPrefix.toNat .allow

/-- All options can be written. -/
theorem writtenAs_mentions (o : Options) : o.WrittenAs o.mentions where
  texts option := by
    have hvalues : ∀ other,
        ((o.values other).map fun text => Mention.value other text false).filterMap
          (Mention.text? option) = if other = option then o.values other else [] := by
      intro other
      rw [List.filterMap_map]
      split
      · rename_i h
        have hsome : Mention.text? option ∘ (fun text => .value other text false) = some :=
          funext fun text => if_pos h
        rw [hsome, List.filterMap_some]
      · rename_i h
        exact List.filterMap_eq_nil_iff.2 fun text _ => if_neg h
    have hflag : (List.replicate o.allowReservedPrefix.toNat Mention.allow).filterMap
        (Mention.text? option) = [] :=
      List.filterMap_eq_nil_iff.2 fun m hm => List.eq_of_mem_replicate hm ▸ rfl
    cases option <;> simp [mentions, Mention.texts, ValueOption.all, hvalues, hflag]
  flag := by
    have hvalues : ∀ option,
        ((o.values option).map fun text => Mention.value option text false).count .allow = 0 :=
      fun option => List.count_eq_zero.2 (by simp)
    simp [mentions, List.count_append, ValueOption.all, hvalues]

end Options

/-! ## Whole command lines -/

/-- Arguments that can be told from options when they are written: directories and path lists
are not empty, and neither they nor the name begin with a dash. -/
structure Arguments.Writable (a : Arguments) : Prop where
  /-- No value is empty. -/
  nonempty : ∀ option, ∀ text ∈ a.options.values option, text ≠ ""
  /-- No value begins like an option. -/
  plain : ∀ option, ∀ text ∈ a.options.values option, Text.startsWith text "-" = false
  /-- Neither does the name. -/
  operand : Text.startsWith a.command.operand "-" = false

/-- Every command line can be written, and in whatever order its options are written, wherever
the values stand, on whichever side of the name the flag is and whatever the values spell, it
is read as it was written. -/
theorem Arguments.parse_written {a : Arguments} (h : a.Writable) :
    (∃ ms, a.options.WrittenAs ms) ∧
      ∀ ms flagFirst, a.options.WrittenAs ms →
        Arguments.parse (ms.flatMap Mention.words ++ a.command.words flagFirst) = .ok a := by
  refine ⟨⟨_, a.options.writtenAs_mentions⟩, fun ms flagFirst hwritten => ?_⟩
  have hmem : ∀ m ∈ ms, ∀ option, ∀ text ∈ m.text? option, text ∈ a.options.values option := by
    intro m hm option text htext
    rw [← hwritten.texts]
    exact List.mem_filterMap.2 ⟨m, hm, htext⟩
  have htake : Options.takeAll {} ms = .ok a.options :=
    hwritten.completes.takeAll fun m hm option text htext =>
      h.nonempty option text (hmem m hm option text htext)
  have hstart : Options.settle {} none = .ok {} := rfl
  obtain ⟨o, awaited, hread, hsettle⟩ := Arguments.parseFrom_mentions ms
    (a.command.words flagFirst) hstart htake fun m hm option text htext =>
      h.plain option text (hmem m hm option text htext)
  exact hread.trans (Arguments.parseFrom_command hsettle h.operand flagFirst)

/-! ## Values that look like commands -/

/-- Layers and path lists that are called like commands and options. -/
def misleading : Arguments where
  options :=
    { layers := ["resolve", "a=b", "resolve"]
      libraryDir := some "load-library"
      libraryPath := some "help"
      allowReservedPrefix := true }
  command := .resource "resource" true

/-- The options in some order. -/
def shuffled : List Mention :=
  [.value .libraryPath "help" false, .value .layer "resolve" false, .value .layer "a=b" true,
    .allow, .value .libraryDir "load-library" false, .value .layer "resolve" false]

/-- Such values are taken for values, and the command comes after the last of them. -/
theorem Arguments.parse_written_misleading :
    misleading.Writable ∧ misleading.options.WrittenAs shuffled ∧
      Arguments.parse ["--library-path", "help", "--layer", "resolve", "--layer=a=b",
        "--allow-reserved-prefix", "--library-dir", "load-library", "--layer", "resolve",
        "resource", "--all", "resource"] = .ok misleading := by
  have hvalues : ∀ option, ∀ text ∈ misleading.options.values option,
      text ≠ "" ∧ Text.startsWith text "-" = false := by
    intro option
    cases option <;> decide
  have hwritable : misleading.Writable :=
    ⟨fun option text htext => (hvalues option text htext).1,
      fun option text htext => (hvalues option text htext).2, by decide⟩
  have hwritten : misleading.options.WrittenAs shuffled :=
    ⟨fun option => by cases option <;> decide, by decide⟩
  have hwords : shuffled.flatMap Mention.words ++ misleading.command.words true =
      ["--library-path", "help", "--layer", "resolve", "--layer=a=b",
        "--allow-reserved-prefix", "--library-dir", "load-library", "--layer", "resolve",
        "resource", "--all", "resource"] := by decide
  exact ⟨hwritable, hwritten, hwords ▸ (parse_written hwritable).2 shuffled true hwritten⟩

end Loading
