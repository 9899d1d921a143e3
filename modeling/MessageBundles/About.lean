/-
  What the program is called

  Correspondence:
    `NAME`, `VERSION`, `info`                ↔ `name`, `version`, `info`
    the default of `FetchConfig::user_agent` ↔ `agent`
-/

namespace MessageBundles.About

def name : String := "bundle-loader"

def version : String := "0.1.0"

/-- Name and version, for a reader. -/
def info : String := name ++ " v" ++ version

/-- Name and version, for a server. -/
def agent : String := name ++ "/" ++ version

end MessageBundles.About
