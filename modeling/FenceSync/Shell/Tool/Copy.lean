import FenceSync.Shell.Tool.Remove

namespace FenceSync.Shell

/-!
# Programs that copy and rename

* `CopyPlan` says how files are copied, and `copyNode` copies one.
* `Tool.cp`, `Tool.mv` and `Tool.install` put files elsewhere.
* `Tool.ln` and `Tool.link` give files further names.
-/

/-- How files are copied. -/
structure CopyPlan where
  recursive : Bool
  /-- Links are copied, not what they lead to. -/
  keepsLinks : Bool
  /-- Times and permissions are kept. -/
  preserves : Bool
  verbose : Bool
  /-- What stands at the new place is removed if it cannot be written. -/
  force : Bool
  /-- What stands at the new place is kept. -/
  keepsOld : Bool
  /-- What stands at the new place is kept if it is as new. -/
  updates : Bool
  asks : Bool
  /-- The ending of the name that what stood at the new place gets. -/
  backup : Option Octets
  /-- Copies are links: symbolic ones or others. -/
  links : Option Bool

namespace Tool

/-- Say that one path became another one. -/
def tellPair (front : String) (a : Octets) (arrow : String) (b : Octets) : Prog Unit :=
  tell (front.toList ++ Names.quoted a ++ arrow.toList ++ Names.quoted b)

/-- Give the node at a place the name of a backup. -/
def makeBackup (place : Place) (ending : Octets) : Prog Unit :=
  match place.getLast? with
  | some name => Sys.rename place (place.dropLast ++ [name ++ Octets.toText ending])
  | none => pure ()

/-- Permissions and times of the node at a place, for another one. -/
def copyMark (preserves : Bool) (old new : Place) (n : Node) (fresh : Bool) : Prog Unit := do
  let mode ← Sys.modeOf old n
  if preserves then
    Sys.setMode new mode
    Sys.setTime new (some (← Sys.timeOf old))
  else if fresh then Sys.setMode new (Kernel.masked (mode % 512) (← Sys.mask))

/-- Copy a node to a path, at most so many levels deep. -/
def copyNode (s : Setting) (c : CopyPlan) : Nat → Octets → Place → Node → Octets → Prog Bool
  | 0, _, _, _, _ => return false
  | depth + 1, source, old, n, target => do
    let followed := match n with
      | .link _ => c.keepsLinks
      | _ => false
    match ← Sys.find? (!followed) target with
    | .error e => refuse s target e
    | .ok ⟨new, there⟩ =>
      let said : Prog Unit := if c.verbose then tellPair "" source " -> " target else pure ()
      let newer ← if c.updates && there.isSome then
          pure (decide ((← Sys.timeOf old) ≤ (← Sys.timeOf new))) else pure false
      match n with
      | .dir =>
        if !c.recursive then refuse s source .isDirectory
        else if old.isPrefixOf new then refuse s source .exists
        else
          let ready ← match there with
            | some .dir => pure true
            | some _ => refuse s target .notDirectory
            | none =>
              Sys.create new .dir 0o777
              said
              pure true
          if !ready then return false
          else
            let mut ok := true
            for name in ← Sys.names old do
              let inside := old ++ [Octets.toText name]
              match (← Sys.tree).node? inside with
              | some m =>
                let into := Sys.under target name
                if !(← copyNode s c depth (Sys.under source name) inside m into) then ok := false
              | none => pure ()
            copyMark c.preserves old new n there.isNone
            return ok
      | n =>
        if there = some .dir then refuse s target .isDirectory
        else if there.isNone && target.getLast? = some '/' then refuse s target .notDirectory
        else if there.isSome && old = new then refuse s source .exists
        else if there.isSome && (c.keepsOld || newer) then return true
        else
          let goes ← if c.asks && there.isSome then
              ask s ("overwrite ".toList ++ Names.quoted target) else pure true
          if !goes then return false
          else
            match there, c.backup with
            | some _, some ending => makeBackup new ending
            | _, _ => pure ()
            let there := if c.backup.isSome then none else there
            let ok ← match c.links with
              | some true =>
                if there.isSome && !c.force then refuse s target .exists
                else
                  Sys.create new (.link (Octets.toText source)) 0o777
                  pure true
              | _ =>
                match n with
                | .file content =>
                  match there with
                  | some (.file _) | none =>
                    if there.isNone then Sys.create new (.file content) 0o666
                    else Sys.changeTree fun t => t.put new (.file content)
                    copyMark c.preserves old new n there.isNone
                    pure true
                  | some _ =>
                    match ← Sys.writeFile target .write (Octets.ofBytes content) with
                    | .ok () => pure true
                    | .error e => refuse s target e
                | .link t =>
                  if there.isSome then Sys.remove new
                  Sys.create new (.link t) 0o777
                  pure true
                | _ =>
                  -- what has no end is not copied; what is empty is
                  match ← Sys.writeFile target .write [] with
                  | .ok () => pure true
                  | .error e => refuse s target e
            if ok then said
            return ok

/-- How deep directories are copied. -/
def copyDepth : Nat := 1000

/-- Sources and what they become: paths in a directory, or one path. -/
def targetsOf (s : Setting) (p : Parsed) : Prog (Option (List (Octets × Octets))) := do
  let into (dir : Octets) (sources : List Octets) : List (Octets × Octets) :=
    sources.map fun a =>
      let name := lastName a
      (a, if name = ['.'] ∨ name = ['.', '.'] ∨ name = ['/'] then dir else Sys.under dir name)
  match p.value? "t" with
  | some dir =>
    if p.operands.isEmpty then
      s.complain "missing file operand"
      return none
    else if ← Sys.isDir dir then return some (into dir p.operands)
    else
      s.complainOf dir .notDirectory
      return none
  | none =>
    match p.operands.reverse with
    | dir :: first :: more =>
      let sources := (first :: more).reverse
      if p.has "T" then
        if more.isEmpty then return some [(first, dir)]
        else
          s.complain "extra operand"
          return none
      else if ← Sys.isDir dir then return some (into dir sources)
      else if more.isEmpty then return some [(first, dir)]
      else
        s.complainOf dir .notDirectory
        return none
    | _ =>
      s.complain "missing file operand"
      return none

/-- The ending of backups that options ask for. -/
def backupOf (p : Parsed) : Option Octets :=
  if p.has "b" || p.has "S" || p.has "backup" then some ((p.value? "S").getD ['~']) else none

/-- Copy files. -/
def cp : Tool :=
  withOptions (OptionSpec.of "abdfHilLnprRst:S:TuvxPZ" [("archive", "a"), ("backup?", "backup"),
    ("force", "f"), ("interactive", "i"), ("link", "l"), ("dereference", "L"),
    ("no-clobber", "n"), ("no-dereference", "P"), ("preserve?", "preserve"),
    ("no-preserve=", "nopreserve"), ("parents", "parents"), ("recursive", "r"),
    ("remove-destination", "removing"), ("symbolic-link", "s"), ("suffix", "S"),
    ("target-directory", "t"), ("no-target-directory", "T"), ("update?", "u"), ("verbose", "v"),
    ("one-file-system", "x"), ("reflink?", "reflink"), ("sparse=", "sparse"),
    ("attributes-only", "attributes"), ("strip-trailing-slashes", "strip")]) 1 fun s p => do
  let recursive := p.has "r" || p.has "R" || p.has "a"
  let clobber := p.last? ["n", "i", "f"]
  let keepsLinks := match p.last? ["L", "P", "d", "a", "H"] with
    | some "L" => false
    | some "H" => false
    | some _ => true
    | none => recursive && !p.has "l"
  let c : CopyPlan := {
    recursive, keepsLinks
    preserves := p.has "p" || p.has "a" || p.has "preserve"
    verbose := p.has "v", force := p.has "f" || p.has "removing"
    keepsOld := clobber == some "n", updates := p.has "u", asks := clobber == some "i"
    backup := backupOf p
    links := if p.has "s" then some true else if p.has "l" then some false else none }
  let pairs ← if p.has "parents" then
      match p.operands.reverse with
      | dir :: first :: more =>
        if ← Sys.isDir dir then
          pure (some ((first :: more).reverse.map fun a => (a, Sys.under dir a)))
        else do
          s.complainOf dir .notDirectory
          pure none
      | _ => pure none
    else targetsOf s p
  match pairs with
  | none => return 1
  | some pairs =>
    let mut ok := true
    let mut made : List Octets := []
    for (source, target) in pairs do
      if p.has "parents" then
        for q in (pathsTo (dirOf target)) do
          if !(← Sys.isDir q) then discard (makeDir s q 0o777)
      match ← Sys.find? (!c.keepsLinks) source with
      | .error e => ok := (← refuse s source e)
      | .ok ⟨_, none⟩ => ok := (← refuse s source .notFound)
      | .ok ⟨place, some n⟩ =>
        if made.contains target && n != .dir then ok := (← refuse s target .exists)
        else if !(← copyNode s c copyDepth source place n target) then ok := false
        else made := target :: made
    return statusOf ok

/-- Rename files. -/
def mv : Tool :=
  withOptions (OptionSpec.of "bfint:S:TuvZ" [("backup?", "backup"), ("force", "f"),
    ("interactive", "i"), ("no-clobber", "n"), ("suffix", "S"), ("target-directory", "t"),
    ("no-target-directory", "T"), ("update?", "u"), ("verbose", "v"),
    ("strip-trailing-slashes", "strip")]) 1 fun s p => do
  match ← targetsOf s p with
  | none => return 1
  | some pairs =>
    let clobber := p.last? ["n", "i", "f"]
    let mut ok := true
    for (source, target) in pairs do
      let fine ← match ← Sys.find? false source with
        | .error e => refuse s source e
        | .ok ⟨_, none⟩ => refuse s source .notFound
        | .ok ⟨old, some n⟩ =>
          if source.getLast? = some '/' && n != .dir then refuse s source .notDirectory
          else
          match ← Sys.find? false (if n = .dir then withoutSlashes target else target) with
          | .error e => refuse s target e
          | .ok ⟨new, there⟩ =>
            let said : Prog Unit :=
              if p.has "v" then tellPair "renamed " source " -> " target else pure ()
            let isDir := n == .dir
            let thereDir := there == some .dir
            if old = new then refuse s source .exists
            else if there.isNone && !isDir && target.getLast? = some '/' then
              refuse s target .notDirectory
            else if isDir && old.isPrefixOf new then refuse s source .exists
            else if there.isSome && clobber = some "n" then pure true
            else if there.isSome && p.has "u" && (← Sys.timeOf old) ≤ (← Sys.timeOf new) then
              pure true
            else if thereDir && !isDir then refuse s target .isDirectory
            else if isDir && there.isSome && !thereDir then refuse s target .notDirectory
            else if thereDir && !(← Sys.names new).isEmpty && (backupOf p).isNone then
              refuse s target .notEmpty
            else
              let goes ← if clobber = some "i" && there.isSome then
                  ask s ("overwrite ".toList ++ Names.quoted target) else pure true
              if !goes then pure false
              else
                match there, backupOf p with
                | some _, some ending => makeBackup new ending
                | _, _ => pure ()
                Sys.rename old new
                said
                pure true
      if !fine then ok := false
    return statusOf ok

/-- Copy files and set their permissions, or make directories. -/
def install : Tool :=
  withOptions (OptionSpec.of "bcCdDg:m:o:pst:S:TvZ" [("directory", "d"), ("mode", "m"),
    ("owner", "o"), ("group", "g"), ("target-directory", "t"), ("no-target-directory", "T"),
    ("verbose", "v"), ("suffix", "S"), ("compare", "C"), ("preserve-timestamps", "p"),
    ("strip", "s"), ("backup?", "backup")]) 1 fun s p => do
  match Permission.read? false 0 0 ((p.value? "m").getD "755".toList) with
  | none => s.fail 1 "invalid mode"
  | some mode =>
    if p.has "d" then
      if p.operands.isEmpty then s.fail 1 "missing file operand"
      else forAll p.operands fun path => do
        let mut ok := true
        for q in pathsTo path do
          if ok && !(← Sys.isDir q) then
            ok ← makeDir s q 0o755
            if ok && p.has "v" then
              tell ("install: creating directory ".toList ++ Names.quoted q)
        match ok, ← Sys.node? true path with
        | true, some (place, _) => Sys.setMode place mode
        | _, _ => pure ()
        return ok
    else
      if p.has "D" then
        let dir := match p.value? "t", p.operands.getLast? with
          | some dir, _ => some dir
          | none, some last => some (dirOf last)
          | _, _ => none
        match dir with
        | some dir =>
          for q in pathsTo dir do
            if !(← Sys.isDir q) then
              let made ← makeDir s q 0o755
              if made && p.has "v" then
                tell ("install: creating directory ".toList ++ Names.quoted q)
        | none => pure ()
      match ← targetsOf s p with
      | none => return 1
      | some pairs =>
        let c : CopyPlan := {
          recursive := false, keepsLinks := false, preserves := p.has "p", verbose := p.has "v"
          force := true, keepsOld := false, updates := false, asks := false, backup := backupOf p
          links := none }
        let mut ok := true
        for (source, target) in pairs do
          match ← Sys.find? true source with
          | .ok ⟨place, some n⟩ =>
            if ← copyNode s c copyDepth source place n target then
              match ← Sys.node? true target with
              | some (new, _) => Sys.setMode new mode
              | none => pure ()
            else ok := false
          | .ok ⟨_, none⟩ => ok := (← refuse s source .notFound)
          | .error e => ok := (← refuse s source e)
        return statusOf ok

/-- Give files further names. -/
def ln : Tool :=
  withOptions (OptionSpec.of "bdfFiLnPrst:S:Tv" [("backup?", "backup"), ("directory", "d"),
    ("force", "f"), ("interactive", "i"), ("logical", "L"), ("no-dereference", "n"),
    ("physical", "P"), ("relative", "r"), ("symbolic", "s"), ("target-directory", "t"),
    ("suffix", "S"), ("no-target-directory", "T"), ("verbose", "v")]) 1 fun s p => do
  let pairs ← match p.operands with
    | [target] =>
      if p.has "T" || p.has "t" then targetsOf s p else pure (some [(target, lastName target)])
    | [source, target] =>
      -- a link to a directory can be taken for the link itself
      let isLink ← match ← Sys.node? false target with
        | some (_, .link _) => pure true
        | _ => pure false
      if p.has "n" && isLink && !p.has "t" then pure (some [(source, target)]) else targetsOf s p
    | _ => targetsOf s p
  match pairs with
  | none => return 1
  | some pairs =>
    let symbolic := p.has "s"
    let mut ok := true
    for (source, target) in pairs do
      let fine ← match ← Sys.find? false target with
        | .error e => refuse s target e
        | .ok ⟨new, there⟩ =>
          let known ← Sys.node? (p.has "L") source
          let said : Prog Unit :=
            if p.has "v" then tellPair "" target (if symbolic then " -> " else " => ") source
            else pure ()
          if !symbolic && known.isNone then refuse s source .notFound
          else if !symbolic && known.any (fun e => e.2 == .dir) then refuse s source .isDirectory
          else if there = some .dir then refuse s target .isDirectory
          else if there.isSome && !p.has "f" && (backupOf p).isNone && !p.has "i" then
            refuse s target .exists
          else
            let goes ← if p.has "i" && there.isSome && p.last? ["i", "f"] == some "i" then
                ask s ("replace ".toList ++ Names.quoted target) else pure true
            if !goes then pure false
            else if !symbolic && known.any (fun e => e.1 == new) then refuse s target .exists
            else
              match there, backupOf p with
              | some _, some ending => makeBackup new ending
              | some _, none => Sys.remove new
              | none, _ => pure ()
              if symbolic then
                let text ← if !p.has "r" then pure source
                  else match ← Sys.find? true source with
                    | .ok ⟨place, _⟩ =>
                      let way := FileTree.wayBetween new.dropLast place
                      pure (if way.isEmpty then ['.']
                        else Octets.join ['/'] (way.map Octets.ofText))
                    | .error _ => pure source
                Sys.create new (.link (Octets.toText text)) 0o777
                said
                pure true
              else match known with
                | some (_, n) =>
                  Sys.create new n 0o666
                  match known with
                  | some (old, _) => copyMark true old new n true
                  | none => pure ()
                  said
                  pure true
                | none => pure false
      if !fine then ok := false
    return statusOf ok

/-- Give a file a further name. -/
def link : Tool := fun s args => withOptions (OptionSpec.of "" []) 1 (fun s p => do
  match p.operands with
  | [source, target] => ln s ["-T".toList, source, target]
  | _ => s.fail 1 "two operands are needed") s args

end Tool

end FenceSync.Shell
