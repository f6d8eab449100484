import AssetPublish.CommandLine.Command
import AssetPublish.Proofs.Procedure

/-!
# Which command lines are accepted

Reading a command line goes through a check for two hyphens alone, the option parser, the flags
that act at once and the search for an argument that was left over.  The grammar here knows none of
these stages: it says of a single token whether it is an option, whether it is valid, and which
flags occur in it.  The one statement about the whole is that the stages follow this grammar.

The grammar is stated for single tokens since no option takes the token behind it as its value: what
a token means does not depend on those around it.  The order of the answers does depend on the
whole, and the statement gives it: two hyphens alone, options that are not valid, help and version,
arguments that are left over, and then the run.  Each of these conditions is on the list of tokens,
and together they cover every list.

`Complaint` says what is told and not only that something is.  The parser tells the name of an
option without the value that it was given, and of a cluster only the first letter that is unknown.

## What is here

* `IsOption`, `longForms`, `flagLetters`, `IsCluster`, `IsValid` — the kinds of tokens.
* `Occurs` — that a flag occurs in a token.
* `Complaint` — what is told of an option that is not valid.
* `matchLong_of_cut`, `matchShort_cases`, `processOption_cases` — one option.
* `parseOptions_cases` — the option parser on all tokens.
* `ofTokens_of_invalid`, `ofTokens_of_eager`, `ofTokens_of_extra`, `ofTokens_of_options` — what
  comes of a command line in each case.
* `command_follows_grammar` — a call of the program accepts and refuses by the grammar.
-/

set_option autoImplicit false

namespace AssetPublish
namespace CommandLine

/-! ## Tokens -/

/-- A token that starts with a hyphen and is longer than that.  A hyphen alone is an argument like
any other. -/
def IsOption (token : String) : Prop := token.toList.head? = some '-' ∧ 1 < token.length

/-- The options that are written out. -/
def longForms : List String :=
  ["--dry-run", "--quiet", "--verbose", "--json", "--no-progress", "--help", "--version"]

/-- The letters that stand for flags. -/
def flagLetters : List Char := ['n', 'q', 'v', 'h']

/-- A hyphen, and one or more of the letters that stand for flags.  The letters may be repeated and
come in any order. -/
def IsCluster (token : String) : Prop :=
  ∃ letters : List Char, letters ≠ [] ∧ (∀ c ∈ letters, c ∈ flagLetters) ∧
    token = String.ofList ('-' :: letters)

/-- The options that are known. -/
def IsValid (token : String) : Prop := token ∈ longForms ∨ IsCluster token

/-- A flag occurs in a token: the token is its long form, or a cluster with its letter.  It is this
notion through which the grammar fixes the flags with which a run starts. -/
def Occurs (flag : Flag) (token : String) : Prop :=
  token = flag.long ∨ IsCluster token ∧ ∃ c ∈ token.toList, flag.letter? = some c

/-- What is told of an option that is not valid: what stands before the value that it was given, or
the first letter that is unknown.  The two cases are told apart by the second character, which is a
hyphen or not. -/
inductive Complaint : String → String → Prop
  | long {name value : List Char} (plain : '=' ∉ name) (cut : ∀ c ∈ value.head?, c = '=') :
      Complaint (String.ofList ('-' :: '-' :: name ++ value)) (String.ofList ('-' :: '-' :: name))
  | short {known rest : List Char} {c : Char} (single : ∀ k ∈ (known ++ [c]).head?, k ≠ '-')
      (all : ∀ k ∈ known, k ∈ flagLetters) (unknown : c ∉ flagLetters) :
      Complaint (String.ofList ('-' :: known ++ c :: rest)) (String.ofList ['-', c])

variable {tokens : List String} {token name : String} {flag : Flag}

/-- The test of the parser is the one of the grammar. -/
theorem isOptionLike_iff : isOptionLike token = true ↔ IsOption token := by
  simp [isOptionLike, startsWithHyphen, IsOption]

theorem IsOption.exists_chars (h : IsOption token) :
    ∃ c rest, token.toList = '-' :: c :: rest := by
  obtain ⟨hyphen, long⟩ := h
  rw [← String.length_toList] at long
  match ht : token.toList with
  | [] => simp [ht] at hyphen
  | [_] => simp [ht] at long
  | first :: c :: rest =>
    rw [ht, List.head?_cons, Option.some.injEq] at hyphen
    exact ⟨c, rest, by rw [hyphen]⟩

/-! ## The flags of one option

The tables of the program are held against those of the grammar, once for letters and once for long
forms. -/

/-- The parser finds a flag by its long form, and by nothing else. -/
theorem ofLong?_eq_some_iff {text : String} : Flag.ofLong? text = some flag ↔ text = flag.long := by
  constructor
  · intro h
    simpa [eq_comm] using List.find?_some h
  · rintro rfl
    cases flag <;> rfl

theorem ofLetter?_eq_some_iff {c : Char} :
    Flag.ofLetter? c = some flag ↔ flag.letter? = some c := by
  constructor
  · intro h
    simpa using List.find?_some h
  · intro h
    cases flag <;> simp only [Flag.letter?, Option.some.injEq, reduceCtorEq] at h <;> subst h <;>
      rfl

/-- The letters that stand for flags are those of the grammar. -/
theorem ofLetter?_isSome_iff (c : Char) :
    (Flag.ofLetter? c).isSome ↔ c ∈ flagLetters := by
  constructor
  · intro h
    obtain ⟨flag, known⟩ := Option.isSome_iff_exists.1 h
    have letter := ofLetter?_eq_some_iff.1 known
    cases flag <;> simp only [Flag.letter?, Option.some.injEq, reduceCtorEq] at letter <;>
      subst letter <;> decide
  · intro h
    simp only [flagLetters, List.mem_cons, List.not_mem_nil, or_false] at h
    rcases h with rfl | rfl | rfl | rfl <;> rfl

/-- The long forms of the flags are those of the grammar. -/
theorem exists_long_iff :
    (∃ flag : Flag, token = flag.long) ↔ token ∈ longForms := by
  constructor
  · rintro ⟨flag, rfl⟩
    cases flag <;> simp [Flag.long, longForms]
  · intro h
    simp only [longForms, List.mem_cons, List.not_mem_nil, or_false] at h
    rcases h with h | h | h | h | h | h | h
    · exact ⟨.dryRun, h⟩
    · exact ⟨.quiet, h⟩
    · exact ⟨.verbose, h⟩
    · exact ⟨.json, h⟩
    · exact ⟨.noProgress, h⟩
    · exact ⟨.help, h⟩
    · exact ⟨.version, h⟩

theorem long_inj {flag other : Flag} : flag.long = other.long ↔ flag = other := by
  cases flag <;> cases other <;> decide

/-- The long form of a flag starts with two hyphens, so it is no cluster, and has no equals sign. -/
theorem long_toList (flag : Flag) :
    ∃ rest, flag.long.toList = '-' :: '-' :: rest ∧ '=' ∉ flag.long.toList := by
  cases flag <;> exact ⟨_, rfl, by decide⟩

/-- A cluster is never looked up as a long form. -/
theorem IsCluster.take_ne (h : IsCluster token) : token.toList.take 2 ≠ ['-', '-'] := by
  obtain ⟨letters, filled, known, rfl⟩ := h
  cases letters with
  | nil => exact absurd rfl filled
  | cons c rest =>
    have letter : c ∈ flagLetters := known c List.mem_cons_self
    rw [String.toList_ofList]
    intro same
    simp only [List.take_succ_cons, List.take_zero, List.cons.injEq, true_and, and_true] at same
    exact absurd (same ▸ letter) (by decide)

theorem IsCluster.isOption (h : IsCluster token) : IsOption token := by
  obtain ⟨letters, filled, -, rfl⟩ := h
  refine ⟨by simp, ?_⟩
  rw [← String.length_toList, String.toList_ofList, List.length_cons]
  have some_letter := List.length_pos_iff.2 filled
  omega

/-- The name and the value of a token are told apart at the first equals sign. -/
theorem exists_cut (token : String) :
    ∃ name value : List Char, token.toList = name ++ value ∧ '=' ∉ name ∧
      ∀ c ∈ value.head?, c = '=' := by
  refine ⟨token.toList.takeWhile (· ≠ '='), token.toList.dropWhile (· ≠ '='),
    List.takeWhile_append_dropWhile.symm, fun h => ?_, fun c hc => ?_⟩
  · simpa using List.all_eq_true.1 List.all_takeWhile _ h
  · have first := List.head?_dropWhile_not (fun c => decide (c ≠ '=')) token.toList
    rw [hc] at first
    simpa using first

/-- What stands before the equals sign is looked up, and a flag with a value is refused, even if the
value is empty. -/
theorem matchLong_of_cut {name value : List Char} (whole : token.toList = name ++ value)
    (plain : '=' ∉ name) (cut : ∀ c ∈ value.head?, c = '=') :
    matchLong token =
      match Flag.ofLong? (String.ofList name) with
      | none => .error (.noSuchOption (String.ofList name))
      | some flag =>
        if value = [] then .ok flag else .error (.badOptionUsage (String.ofList name)) := by
  have stays : ∀ c ∈ name, decide (c ≠ '=') = true := fun c hc =>
    decide_eq_true fun same => plain (same ▸ hc)
  have stops : (name ++ value).takeWhile (fun c => decide (c ≠ '=')) = name := by
    rw [List.takeWhile_append_of_pos stays]
    cases value with
    | nil => simp
    | cons c rest => simp [cut c rfl]
  have member : (name ++ value).contains '=' = true ↔ ¬ value = [] := by
    cases value with
    | nil => simp [plain]
    | cons c rest => simp [cut c rfl]
  simp only [matchLong, whole, stops]
  cases Flag.ofLong? (String.ofList name) with
  | none => rfl
  | some flag => by_cases h : value = [] <;> simp_all

/-- A cluster is either known as a whole, or told by its first unknown letter. -/
theorem matchShort_cases (letters : List Char) :
    (∀ c ∈ letters, c ∈ flagLetters) ∧ (∃ flags, matchShort letters = .ok flags ∧
      ∀ flag, flag ∈ flags ↔ ∃ c ∈ letters, flag.letter? = some c) ∨
    ∃ known c rest, letters = known ++ c :: rest ∧ (∀ k ∈ known, k ∈ flagLetters) ∧
      c ∉ flagLetters ∧
      matchShort letters = .error (.noSuchOption (String.ofList ['-', c])) := by
  induction letters with
  | nil => exact .inl ⟨by simp, [], rfl, by simp⟩
  | cons c rest ih =>
    cases hc : Flag.ofLetter? c with
    | none =>
      have unknown : c ∉ flagLetters := by
        rw [← ofLetter?_isSome_iff, hc]
        simp
      exact .inr ⟨[], c, rest, rfl, by simp, unknown, by simp only [matchShort, hc]⟩
    | some first =>
      have known : c ∈ flagLetters := by
        rw [← ofLetter?_isSome_iff, hc]
        rfl
      rcases ih with ⟨all, flags, hflags, members⟩ | ⟨before, u, after, rfl, all, unknown, herror⟩
      · refine .inl ⟨List.forall_mem_cons.2 ⟨known, all⟩, first :: flags, ?_, fun flag => ?_⟩
        · simp only [matchShort, hc, hflags, ok_bind, pure_eq_ok]
        · have letter : flag = first ↔ flag.letter? = some c := by
            rw [← ofLetter?_eq_some_iff, hc, Option.some.injEq, eq_comm]
          rw [List.mem_cons, members, letter]
          simp
      · refine .inr ⟨c :: before, u, after, rfl, List.forall_mem_cons.2 ⟨known, all⟩, unknown, ?_⟩
        simp only [matchShort, hc, herror, error_bind]

theorem matchLong_long (flag : Flag) : matchLong flag.long = .ok flag := by
  obtain ⟨rest, -, plain⟩ := long_toList flag
  rw [matchLong_of_cut (List.append_nil _).symm plain (by simp), String.ofList_toList,
    ofLong?_eq_some_iff.2 rfl]
  rfl

theorem take_long (flag : Flag) : flag.long.toList.take 2 = ['-', '-'] := by
  obtain ⟨rest, chars, -⟩ := long_toList flag
  rw [chars]
  rfl

/-- With two hyphens, an option is read as a long form or not at all. -/
theorem processOption_cases_double (double : token.toList.take 2 = ['-', '-']) :
    (∃ flag : Flag, token = flag.long ∧ processOption token = .ok [flag]) ∨
    (∀ flag : Flag, token ≠ flag.long) ∧ ∃ error name, processOption token = .error error ∧
      (∀ tokens, error.argument tokens = name) ∧ Complaint token name := by
  obtain ⟨name, value, whole, plain, cut⟩ := exists_cut token
  have matched := matchLong_of_cut whole plain cut
  have unlike {error : UsageError} (h : matchLong token = .error error) (flag : Flag) :
      token ≠ flag.long := by
    rintro rfl
    rw [matchLong_long] at h
    cases h
  -- an equals sign does not come before the two hyphens
  obtain ⟨tail, rfl⟩ : ∃ tail, name = '-' :: '-' :: tail := by
    rw [whole] at double
    match name with
    | [] =>
      cases value with
      | nil => simp at double
      | cons c rest => simp [cut c rfl] at double
    | [_] =>
      cases value with
      | nil => simp at double
      | cons c rest => simp [cut c rfl] at double
    | first :: second :: tail =>
      simp only [List.cons_append, List.take_succ_cons, List.take_zero, List.cons.injEq,
        and_true] at double
      exact ⟨tail, by rw [double.1, double.2]⟩
  have complaint : Complaint token (String.ofList ('-' :: '-' :: tail)) := by
    rw [← String.ofList_toList (s := token), whole]
    exact .long (fun h => plain (by simp [h])) cut
  cases known : Flag.ofLong? (String.ofList ('-' :: '-' :: tail)) with
  | none =>
    simp only [known] at matched
    refine .inr ⟨unlike matched, .noSuchOption _, _, ?_, fun _ => rfl, complaint⟩
    simp only [processOption, matched, if_pos double]
  | some flag =>
    by_cases bare : value = []
    · simp only [known, if_pos bare] at matched
      refine .inl ⟨flag, ?_, by rw [processOption, matched]⟩
      rw [← ofLong?_eq_some_iff.1 known, ← String.ofList_toList (s := token), whole, bare,
        List.append_nil]
    · simp only [known, if_neg bare] at matched
      refine .inr ⟨unlike matched, .badOptionUsage _, _, ?_, fun _ => rfl, complaint⟩
      rw [processOption, matched]

/-- With one hyphen, an option is read as a cluster. -/
theorem processOption_of_single (single : token.toList.take 2 ≠ ['-', '-']) :
    processOption token = matchShort (token.toList.drop 1) := by
  obtain ⟨name, value, whole, plain, cut⟩ := exists_cut token
  have unknown : Flag.ofLong? (String.ofList name) = none := by
    rw [Option.eq_none_iff_forall_ne_some]
    intro flag hflag
    obtain ⟨rest, chars, -⟩ := long_toList flag
    have hname : name = flag.long.toList := by
      rw [← ofLong?_eq_some_iff.1 hflag, String.toList_ofList]
    exact single (by rw [whole, hname, chars]; rfl)
  have matched := matchLong_of_cut whole plain cut
  simp only [unknown] at matched
  simp only [processOption, matched, if_neg single]

/-- An option is read exactly if it is valid. -/
theorem processOption_cases (option : IsOption token) :
    IsValid token ∧ (∃ flags, processOption token = .ok flags ∧
      ∀ flag, flag ∈ flags ↔ Occurs flag token) ∨
    ¬ IsValid token ∧ ∃ error name, processOption token = .error error ∧
      (∀ tokens, error.argument tokens = name) ∧ Complaint token name := by
  by_cases double : token.toList.take 2 = ['-', '-']
  · have notCluster : ¬ IsCluster token := fun h => h.take_ne double
    rcases processOption_cases_double double with ⟨first, rfl, read⟩ | ⟨unlike, told⟩
    · refine .inl ⟨.inl (exists_long_iff.1 ⟨first, rfl⟩), [first], read, fun flag => ?_⟩
      rw [List.mem_singleton, Occurs, long_inj, eq_comm]
      exact ⟨.inl, fun h => h.resolve_right fun h => notCluster h.1⟩
    · refine .inr ⟨?_, told⟩
      rintro (long | cluster)
      · obtain ⟨flag, hflag⟩ := exists_long_iff.2 long
        exact unlike flag hflag
      · exact notCluster cluster
  · obtain ⟨first, rest, chars⟩ := option.exists_chars
    have unlike (flag : Flag) : token ≠ flag.long := by
      rintro rfl
      exact double (take_long flag)
    have spelled : token = String.ofList ('-' :: first :: rest) := by
      rw [← chars, String.ofList_toList]
    have read := processOption_of_single double
    rw [chars, List.drop_one, List.tail_cons] at read
    rcases matchShort_cases (first :: rest) with
      ⟨all, flags, hflags, members⟩ | ⟨known, c, after, cut, all, unknown, herror⟩
    · have cluster : IsCluster token := ⟨first :: rest, by simp, all, spelled⟩
      refine .inl ⟨.inr cluster, flags, read.trans hflags, fun flag => ?_⟩
      have hyphen : flag.letter? ≠ some '-' := by cases flag <;> decide
      rw [members, Occurs, chars]
      simp [unlike, cluster, hyphen]
    · refine .inr ⟨?_, .noSuchOption _, _, read.trans herror, fun _ => rfl, ?_⟩
      · rintro (long | ⟨letters, -, allKnown, same⟩)
        · obtain ⟨flag, hflag⟩ := exists_long_iff.2 long
          exact unlike flag hflag
        · rw [spelled, String.ofList_inj, List.cons.injEq] at same
          exact unknown (allKnown c (by rw [← same.2, cut]; simp))
      · have single : ∀ k ∈ (known ++ [c]).head?, k ≠ '-' := by
          rintro k hk rfl
          have hfirst : (first :: rest).head? = some '-' := by
            rw [cut]
            cases known <;> simpa using hk
          refine double ?_
          rw [chars]
          simpa using hfirst
        rw [spelled, cut]
        exact .short single all unknown

/-! ## The option parser

Options and arguments may come mixed, and the parser goes on behind an argument. -/

theorem Occurs.isOption (h : Occurs flag token) : IsOption token := by
  rcases h with rfl | h
  · obtain ⟨rest, chars, -⟩ := long_toList flag
    refine ⟨by rw [chars]; rfl, ?_⟩
    rw [← String.length_toList, chars]
    simp
  · exact h.1.isOption

/-- **The option parser breaks off at the first option that is not valid.**  If there is none, it
has read the flags that occur and has left over what is no option.  By induction on the tokens, with
the flags and arguments that have been read so far as the state. -/
theorem parseOptions_cases (tokens : List String) (ends : "--" ∉ tokens) (parsed : Parsed) :
    (∀ token ∈ tokens, IsOption token → IsValid token) ∧ (∃ flags,
      parseOptions tokens parsed = .ok ⟨parsed.flags ++ flags,
        parsed.extras ++ tokens.filter (!isOptionLike ·)⟩ ∧
      ∀ flag, flag ∈ flags ↔ ∃ token ∈ tokens, Occurs flag token) ∨
    ∃ before token after error name, tokens = before ++ token :: after ∧
      (∀ token ∈ before, IsOption token → IsValid token) ∧ IsOption token ∧ ¬ IsValid token ∧
      parseOptions tokens parsed = .error error ∧ (∀ tokens, error.argument tokens = name) ∧
      Complaint token name := by
  induction tokens generalizing parsed with
  | nil => exact .inl ⟨by simp, [], by simp [parseOptions], by simp⟩
  | cons first rest ih =>
    obtain ⟨notEnd, ends⟩ : "--" ≠ first ∧ "--" ∉ rest := by simpa using ends
    have unequal : ¬ first = "--" := fun same => notEnd same.symm
    by_cases option : isOptionLike first = true
    · rcases processOption_cases (isOptionLike_iff.1 option) with
        ⟨valid, read, hread, members⟩ | ⟨invalid, error, name, hread, told, complaint⟩
      · rcases ih ends { parsed with flags := parsed.flags ++ read } with
          ⟨all, flags, hflags, more⟩ |
            ⟨before, token, after, error, name, rfl, all, is, invalid, herror, told, complaint⟩
        · refine .inl ⟨List.forall_mem_cons.2 ⟨fun _ => valid, all⟩, read ++ flags, ?_,
            fun flag => ?_⟩
          · simp only [parseOptions, if_neg unequal, if_pos option, hread, ok_bind, hflags]
            simp [option]
          · rw [List.mem_append, members, more]
            simp
        · refine .inr ⟨first :: before, token, after, error, name, rfl,
            List.forall_mem_cons.2 ⟨fun _ => valid, all⟩, is, invalid, ?_, told, complaint⟩
          simp only [parseOptions, if_neg unequal, if_pos option, hread, ok_bind, herror]
      · refine .inr ⟨[], first, rest, error, name, rfl, by simp, isOptionLike_iff.1 option, invalid,
          ?_, told, complaint⟩
        simp only [parseOptions, if_neg unequal, if_pos option, hread, error_bind]
    · have plain : ¬ IsOption first := fun h => option (isOptionLike_iff.2 h)
      rcases ih ends { parsed with extras := parsed.extras ++ [first] } with
        ⟨all, flags, hflags, more⟩ |
          ⟨before, token, after, error, name, rfl, all, is, invalid, herror, told, complaint⟩
      · refine .inl ⟨List.forall_mem_cons.2 ⟨fun h => absurd h plain, all⟩, flags, ?_,
          fun flag => ?_⟩
        · simp only [parseOptions, if_neg unequal, if_neg option, hflags]
          simp [option]
        · have absent : ¬ Occurs flag first := fun h => plain h.isOption
          rw [more]
          simp [absent]
      · refine .inr ⟨first :: before, token, after, error, name, rfl,
          List.forall_mem_cons.2 ⟨fun h => absurd h plain, all⟩, is, invalid, ?_, told, complaint⟩
        simp only [parseOptions, if_neg unequal, if_neg option, herror]

/-! ## The whole command line

What the parser has read is looked at again: for flags that act at once, and for arguments that
nothing asked for. -/

theorem mem_filter_extras : token ∈ tokens.filter (!isOptionLike ·) ↔
    token ∈ tokens ∧ ¬ IsOption token := by
  rw [List.mem_filter, ← isOptionLike_iff]
  simp

/-- The search for the argument that was left over looks for what the option parser left over. -/
theorem isExtra_iff :
    (token = "-" || !startsWithHyphen token) = true ↔ ¬ IsOption token := by
  constructor
  · rintro extra ⟨hyphen, long⟩
    have notAlone : token ≠ "-" := by
      rintro rfl
      exact absurd long (by decide)
    simp [startsWithHyphen, hyphen, notAlone] at extra
  · intro plain
    by_cases hyphen : token.toList.head? = some '-'
    · obtain ⟨rest, chars⟩ := List.head?_eq_some_iff.1 hyphen
      have short : ¬ 1 < token.length := fun long => plain ⟨hyphen, long⟩
      rw [← String.length_toList, chars, List.length_cons] at short
      obtain rfl := List.length_eq_zero_iff.1 (by omega : rest.length = 0)
      have alone : token = "-" := by
        rw [← String.ofList_toList (s := token), chars]
      simp [alone]
    · simp [startsWithHyphen, hyphen]

/-- What the parser refuses is refused as a whole, with the argument that it tells, -/
theorem ofTokens_of_error {error : UsageError} (ends : "--" ∉ tokens)
    (h : parseOptions tokens {} = .error error) :
    Invocation.ofTokens tokens = .refused (error.argument tokens) := by
  simp [Invocation.ofTokens, ends, h]

/-- and what it reads is looked at further. -/
theorem ofTokens_of_ok {parsed : Parsed} (ends : "--" ∉ tokens)
    (h : parseOptions tokens {} = .ok parsed) :
    Invocation.ofTokens tokens = match parsed.invocation with
      | .ok invocation => invocation
      | .error error => .refused (error.argument tokens) := by
  cases hread : parsed.invocation <;> simp [Invocation.ofTokens, ends, h, hread]

theorem eager?_eq_none_iff : flag.eager? = none ↔ flag ≠ .help ∧ flag ≠ .version := by
  cases flag <;> simp [Flag.eager?]

/-- A flag that acts at once wins over arguments that are left over. -/
theorem invocation_of_eager {flags : List Flag} (extras : List String)
    (h : .help ∈ flags ∨ .version ∈ flags) :
    Parsed.invocation ⟨flags, extras⟩ = .ok .help ∨
      Parsed.invocation ⟨flags, extras⟩ = .ok .version := by
  cases found : flags.findSome? Flag.eager? with
  | none =>
    have none := List.findSome?_eq_none_iff.1 found
    rcases h with h | h
    · cases none _ h
    · cases none _ h
  | some invocation =>
    obtain ⟨flag, -, asked⟩ := List.exists_of_findSome?_eq_some found
    cases flag <;> simp only [Flag.eager?, Option.some.injEq, reduceCtorEq] at asked
    · exact .inr (by simp [Parsed.invocation, found, ← asked])
    · exact .inl (by simp [Parsed.invocation, found, ← asked])

theorem invocation_of_not_eager {flags : List Flag} (extras : List String)
    (help : .help ∉ flags) (version : .version ∉ flags) :
    Parsed.invocation ⟨flags, extras⟩ =
      if extras.isEmpty then .ok (.run (Flags.ofList flags))
      else .error (.unexpectedExtra extras) := by
  have none : flags.findSome? Flag.eager? = none := by
    rw [List.findSome?_eq_none_iff]
    intro flag hflag
    exact eager?_eq_none_iff.2 ⟨fun h => help (h ▸ hflag), fun h => version (h ▸ hflag)⟩
  simp only [Parsed.invocation, none]

/-- The first token that is no option is found again. -/
theorem argument_of_extra {extra : String} (extras : List String) (h : extra ∈ tokens)
    (plain : ¬ IsOption extra) :
    ∃ before token after, tokens = before ++ token :: after ∧ (∀ t ∈ before, IsOption t) ∧
      ¬ IsOption token ∧ (UsageError.unexpectedExtra extras).argument tokens = token := by
  have found := (List.find?_isSome (p := fun token => token = "-" || !startsWithHyphen token)).2
    ⟨extra, h, isExtra_iff.2 plain⟩
  obtain ⟨token, htoken⟩ := Option.isSome_iff_exists.1 found
  obtain ⟨is, before, after, cut, options⟩ := List.find?_eq_some_iff_append.1 htoken
  refine ⟨before, token, after, cut, fun t ht => ?_, isExtra_iff.1 is, ?_⟩
  · have none := options t ht
    rw [Bool.not_eq_true', ← Bool.not_eq_true, isExtra_iff, Classical.not_not] at none
    exact none
  · rw [UsageError.argument, htoken, Option.getD_some]

/-! ### The five cases -/

section Cases

variable (ends : "--" ∉ tokens)
include ends

/-- An option that is not valid is refused, whatever else there is. -/
theorem ofTokens_of_invalid (bad : ∃ token ∈ tokens, IsOption token ∧ ¬ IsValid token) :
    ∃ before token after argument, tokens = before ++ token :: after ∧
      (∀ t ∈ before, IsOption t → IsValid t) ∧ IsOption token ∧ ¬ IsValid token ∧
      Complaint token argument ∧ Invocation.ofTokens tokens = .refused argument := by
  rcases parseOptions_cases tokens ends {} with
    ⟨valid, -⟩ | ⟨before, token, after, error, name, cut, all, is, invalid, herror, told, complaint⟩
  · obtain ⟨token, htoken, is, invalid⟩ := bad
    exact absurd (valid token htoken is) invalid
  · refine ⟨before, token, after, name, cut, all, is, invalid, complaint, ?_⟩
    rw [ofTokens_of_error ends herror, told]

variable (valid : ∀ token ∈ tokens, IsOption token → IsValid token)
include valid

/-- If all options are valid the parser gives back the flags that occur, in some order. -/
theorem exists_parsed : ∃ flags,
    parseOptions tokens {} = .ok ⟨flags, tokens.filter (!isOptionLike ·)⟩ ∧
      ∀ flag, flag ∈ flags ↔ ∃ token ∈ tokens, Occurs flag token := by
  rcases parseOptions_cases tokens ends {} with
    ⟨-, flags, hflags, members⟩ | ⟨before, token, after, -, -, rfl, -, is, invalid, -⟩
  · exact ⟨flags, hflags, members⟩
  · exact absurd (valid token (by simp) is) invalid

/-- With help or version among valid options, one of the two is shown. -/
theorem ofTokens_of_eager (eager : ∃ token ∈ tokens, Occurs .help token ∨ Occurs .version token) :
    Invocation.ofTokens tokens = .help ∨ Invocation.ofTokens tokens = .version := by
  obtain ⟨flags, hflags, members⟩ := exists_parsed ends valid
  have asked : Flag.help ∈ flags ∨ Flag.version ∈ flags := by
    obtain ⟨token, htoken, help | version⟩ := eager
    · exact .inl ((members _).2 ⟨token, htoken, help⟩)
    · exact .inr ((members _).2 ⟨token, htoken, version⟩)
  rw [ofTokens_of_ok ends hflags]
  rcases invocation_of_eager (tokens.filter (!isOptionLike ·)) asked with shown | shown <;>
    simp [shown]

variable (calm : ∀ token ∈ tokens, ¬ Occurs .help token ∧ ¬ Occurs .version token)
include calm

/-- Without help and version, all depends on whether something is left over. -/
theorem exists_ofTokens : ∃ flags, (∀ flag, flag ∈ flags ↔ ∃ token ∈ tokens, Occurs flag token) ∧
    Invocation.ofTokens tokens =
      if (tokens.filter (!isOptionLike ·)).isEmpty then .run (Flags.ofList flags)
      else .refused
        ((UsageError.unexpectedExtra (tokens.filter (!isOptionLike ·))).argument tokens) := by
  obtain ⟨flags, hflags, members⟩ := exists_parsed ends valid
  have help : Flag.help ∉ flags := fun h => by
    obtain ⟨token, htoken, occurs⟩ := (members _).1 h
    exact (calm token htoken).1 occurs
  have version : Flag.version ∉ flags := fun h => by
    obtain ⟨token, htoken, occurs⟩ := (members _).1 h
    exact (calm token htoken).2 occurs
  refine ⟨flags, members, ?_⟩
  rw [ofTokens_of_ok ends hflags, invocation_of_not_eager _ help version]
  cases (tokens.filter (!isOptionLike ·)).isEmpty <;> rfl

/-- Without them, the first token that is no option is refused, -/
theorem ofTokens_of_extra (extra : ∃ token ∈ tokens, ¬ IsOption token) :
    ∃ before token after, tokens = before ++ token :: after ∧ (∀ t ∈ before, IsOption t) ∧
      ¬ IsOption token ∧ Invocation.ofTokens tokens = .refused token := by
  obtain ⟨flags, -, read⟩ := exists_ofTokens ends valid calm
  obtain ⟨found, hfound, plain⟩ := extra
  have filled : ¬ (tokens.filter (!isOptionLike ·)).isEmpty = true := fun h =>
    List.ne_nil_of_mem (mem_filter_extras.2 ⟨hfound, plain⟩) (List.isEmpty_iff.1 h)
  obtain ⟨before, token, after, cut, all, is, told⟩ :=
    argument_of_extra (tokens.filter (!isOptionLike ·)) hfound plain
  exact ⟨before, token, after, cut, all, is, by rw [read, if_neg filled, told]⟩

/-- and with none left over the program runs with the flags that occur. -/
theorem ofTokens_of_options (options : ∀ token ∈ tokens, IsOption token) :
    ∃ flags, (∀ flag, flag ∈ flags ↔ ∃ token ∈ tokens, Occurs flag token) ∧
      Invocation.ofTokens tokens = .run (Flags.ofList flags) := by
  obtain ⟨flags, members, read⟩ := exists_ofTokens ends valid calm
  have empty : (tokens.filter (!isOptionLike ·)).isEmpty = true := by
    rw [List.isEmpty_iff, List.eq_nil_iff_forall_not_mem]
    exact fun token h => (mem_filter_extras.1 h).2 (options token (mem_filter_extras.1 h).1)
  exact ⟨flags, members, by rw [read, if_pos empty]⟩

end Cases

/-- The program refuses an argument: it exits with status 2, and all it does is to say so.  The file
system is part of the answer, so that it can be said that it stays as it is. -/
def rejection (argument : String) (fs : FileSystem) : CommandOutcome :=
  { exitCode := 2, printed := { err := refusalText argument }, fs }

/-- The program shows a text and exits with status 0. -/
def notice (text : String) (fs : FileSystem) : CommandOutcome :=
  { exitCode := 0, printed := { out := text }, fs }

/-- **The command line accepts exactly its grammar.**  Two hyphens alone are refused before anything
else; then the first option that is not valid; then help and version are shown; then the first token
that is no option is refused; and else the program runs with the flags that occur somewhere, in
whatever order, repeated or clustered.  A call that is refused, or shows help or version, leaves the
file system as it is.  The five cases exclude each other in this order, and the last is the only one
in which anything is run. -/
theorem command_follows_grammar (caller : Caller) (disturbance : Operation → Option Disturbance)
    (clock : Clock) (tokens : List String) (fs : FileSystem) :
    let answer := command caller disturbance clock tokens fs
    ("--" ∈ tokens → answer = rejection "--" fs) ∧
    ("--" ∉ tokens → (∃ token ∈ tokens, IsOption token ∧ ¬ IsValid token) →
      ∃ before token after argument, tokens = before ++ token :: after ∧
        (∀ t ∈ before, IsOption t → IsValid t) ∧ IsOption token ∧ ¬ IsValid token ∧
        Complaint token argument ∧ answer = rejection argument fs) ∧
    ("--" ∉ tokens → (∀ token ∈ tokens, IsOption token → IsValid token) →
      ((∃ token ∈ tokens, Occurs .help token ∨ Occurs .version token) →
        answer = notice helpText fs ∨ answer = notice versionText fs) ∧
      ((∀ token ∈ tokens, ¬ Occurs .help token ∧ ¬ Occurs .version token) →
        ((∃ token ∈ tokens, ¬ IsOption token) →
          ∃ before token after, tokens = before ++ token :: after ∧ (∀ t ∈ before, IsOption t) ∧
            ¬ IsOption token ∧ answer = rejection token fs) ∧
        ((∀ token ∈ tokens, IsOption token) →
          ∃ flags, answer = runCommand caller disturbance clock flags fs ∧
            (flags.dryRun = true ↔ ∃ token ∈ tokens, Occurs .dryRun token) ∧
            (flags.quiet = true ↔ ∃ token ∈ tokens, Occurs .quiet token) ∧
            (flags.verbose = true ↔ ∃ token ∈ tokens, Occurs .verbose token) ∧
            (flags.json = true ↔ ∃ token ∈ tokens, Occurs .json token) ∧
            (flags.noProgress = true ↔ ∃ token ∈ tokens, Occurs .noProgress token)))) := by
  intro answer
  refine ⟨fun ends => ?_, fun ends bad => ?_, fun ends valid => ⟨fun eager => ?_, fun calm =>
    ⟨fun extra => ?_, fun options => ?_⟩⟩⟩
  · have read : Invocation.ofTokens tokens = .refused "--" := by simp [Invocation.ofTokens, ends]
    simp only [answer, command, read]
    rfl
  · obtain ⟨before, token, after, argument, cut, all, is, invalid, complaint, read⟩ :=
      ofTokens_of_invalid ends bad
    refine ⟨before, token, after, argument, cut, all, is, invalid, complaint, ?_⟩
    simp only [answer, command, read]
    rfl
  · rcases ofTokens_of_eager ends valid eager with read | read
    · refine .inl ?_
      simp only [answer, command, read]
      rfl
    · refine .inr ?_
      simp only [answer, command, read]
      rfl
  · obtain ⟨before, token, after, cut, all, is, read⟩ := ofTokens_of_extra ends valid calm extra
    refine ⟨before, token, after, cut, all, is, ?_⟩
    simp only [answer, command, read]
    rfl
  · obtain ⟨flags, members, read⟩ := ofTokens_of_options ends valid calm options
    refine ⟨Flags.ofList flags, by simp only [answer, command, read], ?_⟩
    simp [Flags.ofList, members]

/-- Help does not make up for an option that is not valid, but for an argument that is left over. -/
example : Invocation.ofTokens ["-nh", "x", "--dry-run=yes"] = .refused "--dry-run" ∧
    Invocation.ofTokens ["-nh", "x"] = .help := by
  decide

end CommandLine
end AssetPublish
