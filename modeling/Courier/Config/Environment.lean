/-!
# References to the environment

A text may refer to variables of the environment: a dollar sign and a name in braces, perhaps with a
default behind `:-`. A reference goes from its opening to the first closing brace; a text in which
none follows is left as it is. What has been put in is not looked at again.

## Main statements

* `expandChars_of_reference`, `expandChars_of_plain`: one step of the expansion.
-/

namespace Courier

/-- The values of variables, by their names. -/
abbrev Environment := String → Option String

namespace Environment

/-- The environment of variables and their values. Each variable is kept as a line, its name before
an equals sign and its value behind it, and a name is looked up as the beginning of such a line; so
what is asked for may reach into a value that has an equals sign of its own. -/
def ofEntries (entries : List (String × String)) : Environment := fun name =>
  if name.isEmpty then none
  else
    (entries.findSome? fun e =>
      (name.toList ++ ['=']).isPrefixOf? (e.1.toList ++ '=' :: e.2.toList)).map String.ofList

/-- A variable that has no value, and for which a reference has no default. -/
structure Unset where
  name : String
  deriving DecidableEq, Repr

/-- The part of a reference before the first `:-` and the part behind it. -/
def cutDefault? : List Char → Option (List Char × List Char)
  | ':' :: '-' :: cs => some ([], cs)
  | c :: cs => (cutDefault? cs).map fun parts => (c :: parts.1, parts.2)
  | [] => none

/-- The name of a reference and its default. A default without a name before it is part of the
name. -/
def nameAndDefault (inside : List Char) : List Char × Option (List Char) :=
  match cutDefault? inside with
  | some (c :: name, text) => (c :: name, some text)
  | _ => (inside, none)

/-- The text that a reference stands for, from what is inside its braces. -/
def resolve (env : Environment) (inside : List Char) : Except Unset (List Char) :=
  let (name, default?) := nameAndDefault inside
  match env (String.ofList name), default? with
  | some text, _ => .ok text.toList
  | none, some text => .ok text
  | none, none => .error ⟨String.ofList name⟩

/-- What is inside a reference and what comes after it, for a text that starts with one. -/
def reference? : List Char → Option (List Char × List Char)
  | '$' :: '\x7b' :: cs =>
    match cs.dropWhile (· ≠ '\x7d') with
    | [] => none
    | _ :: rest => some (cs.takeWhile (· ≠ '\x7d'), rest)
  | _ => none

theorem length_reference?_lt {cs inside rest : List Char}
    (h : reference? cs = some (inside, rest)) : rest.length < cs.length := by
  unfold reference? at h
  split at h
  · rename_i cs
    split at h
    · simp at h
    · rename_i d ds hd
      have hle : (cs.dropWhile (· ≠ '\x7d')).length ≤ cs.length :=
        (List.dropWhile_sublist _).length_le
      rw [hd] at hle
      have : ds = rest := by simpa using (Prod.mk.inj (Option.some.inj h)).2
      subst this
      simp only [List.length_cons] at *
      omega
  · simp at h

/-- Every reference is exchanged for its text, and everything else is copied. -/
def expandChars (env : Environment) (cs : List Char) : Except Unset (List Char) :=
  match cs with
  | [] => .ok []
  | c :: cs =>
    match _h : reference? (c :: cs) with
    | some (inside, rest) => do
      let text ← env.resolve inside
      let others ← expandChars env rest
      return text ++ others
    | none => return c :: (← expandChars env cs)
termination_by cs.length
decreasing_by
  · exact length_reference?_lt _h
  · simp

theorem expandChars_nil (env : Environment) : env.expandChars [] = .ok [] := by
  rw [expandChars]

theorem expandChars_of_reference {env : Environment} {cs inside rest : List Char}
    (h : reference? cs = some (inside, rest)) :
    env.expandChars cs = do
      let text ← env.resolve inside
      let others ← env.expandChars rest
      return text ++ others := by
  cases cs with
  | nil => simp [reference?] at h
  | cons c cs =>
    rw [expandChars]
    split
    · simp_all
    · simp_all

theorem expandChars_of_plain {env : Environment} {c : Char} {cs : List Char}
    (h : reference? (c :: cs) = none) :
    env.expandChars (c :: cs) = (c :: ·) <$> env.expandChars cs := by
  rw [expandChars]
  split
  · simp_all
  · rfl

/-- The text with every reference exchanged for its text. -/
def expand (env : Environment) (s : String) : Except Unset String :=
  (env.expandChars s.toList).map String.ofList

end Environment

end Courier
