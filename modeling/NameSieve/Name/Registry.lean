import NameSieve.Text.Basic

/-!
# Segments and the registry of standard modules

* `segments` cuts a text at its dots.
* `stdlibModules` is the registry, in alphabetical order of the module index it lists.
* `isStdlib` tests membership: the name with a dot behind it begins with a registered entry with
  a dot behind it, so that `os` covers `os.path` and not `oswalk`.
-/

namespace NameSieve.Name

/-- The texts between dots, in order; a text without dots is its own single segment. -/
def segments (text : List Char) : List (List Char) :=
  Text.splitOn '.' text

/-- The modules of the standard library.  Packages of which only some submodules count are listed
by those submodules, so that `encodings` alone is no entry. -/
def stdlibModules : List String := [
  "__future__", "__main__", "_thread", "abc", "aifc", "argparse", "array", "ast", "asynchat",
  "asyncio", "asyncore", "atexit", "audioop", "base64", "bdb", "binascii", "binhex", "bisect",
  "builtins", "bz2", "calendar", "cgi", "cgitb", "chunk", "cmath", "cmd", "code", "codecs",
  "codeop", "collections", "colorsys", "compileall", "concurrent.futures", "configparser",
  "contextlib", "contextvars", "copy", "copyreg", "crypt", "csv", "ctypes", "curses",
  "dataclasses", "datetime", "dbm", "decimal", "difflib", "dis", "distutils", "doctest", "email",
  "encodings.idna", "encodings.mbcs", "encodings.utf_8_sig", "ensurepip", "enum", "errno",
  "faulthandler", "fcntl", "filecmp", "fileinput", "fnmatch", "fractions", "ftplib", "functools",
  "gc", "getopt", "getpass", "gettext", "glob", "graphlib", "grp", "gzip", "hashlib", "heapq",
  "hmac", "html", "http", "imaplib", "imghdr", "imp", "importlib", "inspect", "io", "ipaddress",
  "itertools", "json", "keyword", "lib2to3", "linecache", "locale", "logging", "lzma", "mailbox",
  "mailcap", "marshal", "math", "mimetypes", "mmap", "modulefinder", "msilib", "msvcrt",
  "multiprocessing", "netrc", "nis", "nntplib", "numbers", "operator", "optparse", "os",
  "ossaudiodev", "pathlib", "pdb", "pickle", "pickletools", "pipes", "pkgutil", "platform",
  "plistlib", "poplib", "posix", "pprint", "profile", "pstats", "pty", "pwd", "py_compile",
  "pyclbr", "pydoc", "queue", "quopri", "random", "re", "readline", "reprlib", "resource",
  "rlcompleter", "runpy", "sched", "secrets", "select", "selectors", "shelve", "shlex", "shutil",
  "signal", "site", "smtpd", "smtplib", "sndhdr", "socket", "socketserver", "spwd", "sqlite3",
  "ssl", "stat", "statistics", "string", "stringprep", "struct", "subprocess", "sunau",
  "symtable", "sys", "sysconfig", "syslog", "tabnanny", "tarfile", "telnetlib", "tempfile",
  "termios", "test", "textwrap", "threading", "time", "timeit", "tkinter", "token", "tokenize",
  "trace", "traceback", "tracemalloc", "tty", "turtle", "turtledemo", "types", "typing",
  "unicodedata", "unittest", "urllib", "uu", "uuid", "venv", "warnings", "wave", "weakref",
  "webbrowser", "winreg", "winsound", "wsgiref", "xdrlib", "xml", "xmlrpc.client",
  "xmlrpc.server", "zipapp", "zipfile", "zipimport", "zlib", "zoneinfo"]

/-- A text with a dot behind it: its last segment is closed. -/
def closed (text : List Char) : List Char :=
  text ++ ['.']

/-- The registered entries, each closed by a dot. -/
def stdlibMarks : List (List Char) :=
  stdlibModules.map fun entry => closed entry.toList

/-- Does the name begin with a registered entry, on a whole number of segments? -/
def isStdlib (name : String) : Bool :=
  stdlibMarks.any fun mark => mark.isPrefixOf (closed name.toList)

end NameSieve.Name
