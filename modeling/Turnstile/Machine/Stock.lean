import Turnstile.Machine.Utility
import Turnstile.World
/-!
# The stock of the machine

The part of the tree that is there before anything else is: the utilities
and the shell, some files under `/etc`, and the devices that programs use.
-/

namespace Turnstile

namespace Stock

/-- The programs, by name. -/
def programs : List String := "sh" :: "env" :: Utility.all.map (·.1)

/-- Directories, each after the one it is in. -/
def directories : List AbsPath :=
  [["dev"], ["etc"], ["home"], ["opt"], ["proc"], ["root"], ["run"], ["srv"], ["sys"], ["tmp"],
    ["usr"], ["usr", "bin"], ["usr", "lib"], ["usr", "local"], ["usr", "local", "bin"],
    ["usr", "sbin"], ["usr", "share"], ["var"], ["var", "log"], ["var", "tmp"]]

/-- Everything else, with its place. -/
def entries : List (AbsPath × Entry) :=
  [(["bin"], .link "usr/bin"), (["sbin"], .link "usr/sbin"), (["lib"], .link "usr/lib"),
    (["dev", "null"], .device), (["dev", "zero"], .device),
    (["etc", "passwd"],
      .file (Utf8.encode "root:x:0:0:root:/root:/bin/sh\nnobody:x:65534:65534:nobody:/nonexistent:/usr/sbin/nologin\n") false),
    (["etc", "group"], .file (Utf8.encode "root:x:0:\n") false),
    (["etc", "hostname"], .file (Utf8.encode "localhost\n") false),
    (["etc", "hosts"], .file (Utf8.encode "127.0.0.1\tlocalhost\n") false)] ++
  programs.map fun name => (["usr", "bin", name], .program name)

/-- The tree. -/
def files : FileTree :=
  entries.foldl (fun t e => t.put e.1 e.2) (directories.foldl (fun t p => t.put p .directory) .empty)

/-- Where programs are looked for. -/
def searchPath : String := "/usr/local/sbin:/usr/local/bin:/usr/sbin:/usr/bin:/sbin:/bin"

/-- A directory with everything above it. -/
def withDirectory (t : FileTree) (p : AbsPath) : FileTree := (t.createDirectories [] p.text).1

/-- The world of a program started in a directory. -/
def world (cwd : AbsPath) : World :=
  { World.fresh (withDirectory files cwd) cwd with
    env := [("HOME", "/root"), ("PATH", searchPath)] }

end Stock

end Turnstile
