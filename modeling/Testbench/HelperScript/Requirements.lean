/-!
# Requirements — the script that tells whether the interpreter satisfies a requirements file
-/

namespace Testbench
namespace HelperScript

/-- The lines of the script. -/
def requirementsLines : List String := [
  "# -*- coding: utf-8 -*-",
  "\"\"\"Check whether the current interpreter satisfies a requirements file.",
  "",
  "usage: python parse_requirements.py <requirements.txt>",
  "prints \x7b\"result\": true\x7d or \x7b\"result\": false, \"error\": \"...\"\x7d",
  "\"\"\"",
  "",
  "from __future__ import print_function",
  "",
  "import json",
  "import sys",
  "",
  "",
  "def read_requirements(path):",
  "    lines = []",
  "    with open(path) as fp:",
  "        for raw in fp:",
  "            line = raw.split(\"#\", 1)[0].strip()",
  "            if not line or line.startswith(\"-\"):",
  "                continue",
  "            lines.append(line)",
  "    return lines",
  "",
  "",
  "def check(path):",
  "    try:",
  "        import pkg_resources",
  "    except ImportError as e:",
  "        return \x7b\"result\": False, \"error\": str(e)\x7d",
  "",
  "    try:",
  "        requirements = read_requirements(path)",
  "        pkg_resources.working_set.require(requirements)",
  "    except pkg_resources.VersionConflict as e:",
  "        return \x7b\"result\": False, \"error\": \"\x7b\x7d was found, but \x7b\x7d is required\".format(e.dist, e.req)\x7d",
  "    except Exception as e:",
  "        return \x7b\"result\": False, \"error\": str(e)\x7d",
  "    return \x7b\"result\": True\x7d",
  "",
  "",
  "if __name__ == \"__main__\":",
  "    if len(sys.argv) < 2:",
  "        print(\"usage: python parse_requirements.py requirements_file_path\", file=sys.stderr)",
  "        sys.exit(2)",
  "    print(json.dumps(check(sys.argv[1])))"]

end HelperScript
end Testbench
