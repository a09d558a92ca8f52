/-
**Sessions that share their variables.**

A fork of a session starts with no turns. It shares the variables of the session it comes from, so that
what either binds the other sees, or starts with variables of its own. A restored session shares
nothing.
-/

import PromptChain.Session

namespace PromptChain.Session

/-- A member of a family of sessions: its turns, the scope of its variables, and the member it was
forked from. -/
structure Member where
  turns : List Turn
  scope : Nat
  parent : Option Nat

/-- Sessions with the scopes of their variables. -/
structure Forks where
  scopes : List Bindings
  members : List Member

namespace Forks

def ofSession (session : Session) : Forks := ⟨[session.bindings], [⟨session.turns, 0, none⟩]⟩

/-- The session at an index; one without turns and variables if there is none. -/
def session (forks : Forks) (index : Nat) : Session :=
  match forks.members[index]? with
  | some member => ⟨member.turns, forks.scopes.getD member.scope []⟩
  | none => {}

def sessions (forks : Forks) : List Session :=
  (List.range forks.members.length).map forks.session

/-- The member that the last session was forked from. -/
def lastParent (forks : Forks) : Option Nat := forks.members.getLast?.bind Member.parent

/-- Changes the session at an index; a change of its variables is one for all that share them. -/
def modify (forks : Forks) (index : Nat) (change : Session → Session) : Forks :=
  match forks.members[index]? with
  | none => forks
  | some member =>
    let changed := change (forks.session index)
    ⟨forks.scopes.set member.scope changed.bindings,
      forks.members.set index { member with turns := changed.turns }⟩

def add (forks : Forks) (session : Session) (parent : Option Nat) : Forks :=
  ⟨forks.scopes ++ [session.bindings],
    forks.members ++ [⟨session.turns, forks.scopes.length, parent⟩]⟩

/-- Forks the session at an index; `sharing` says whether the fork shares its variables. -/
def fork (forks : Forks) (index : Nat) (sharing : Bool) : Forks :=
  match forks.members[index]? with
  | none => forks
  | some member =>
    if sharing then { forks with members := forks.members ++ [⟨[], member.scope, some index⟩] }
    else
      let user := ((forks.session index).lookup "USER").getD ""
      forks.add (Session.start user) (some index)

end Forks

end PromptChain.Session
