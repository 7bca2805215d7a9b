/-!
# Outline — the script that prints the outline of a Python source as JSON
-/

namespace Testbench
namespace HelperScript

/-- The lines of the script. -/
def outlineLines : List String := [
  "# -*- coding: utf-8 -*-",
  "\"\"\"Print the structure of a QTA Python module as JSON.",
  "",
  "usage: python parse_file.py <file.py>",
  "\"\"\"",
  "",
  "from __future__ import print_function",
  "",
  "import ast",
  "import io",
  "import json",
  "import sys",
  "",
  "TESTCASE_FIELDS = (\"owner\", \"timeout\", \"priority\", \"status\")",
  "RUN_METHODS = (\"run_test\", \"runTest\")",
  "STEP_CALLS = (\"start_step\", \"startStep\")",
  "LOCATOR_CALLS = (\"update_locator\", \"updateLocator\")",
  "",
  "",
  "def first_doc_line(node):",
  "    try:",
  "        doc = ast.get_docstring(node)",
  "    except TypeError:",
  "        return \"\"",
  "    if not doc:",
  "        return \"\"",
  "    return doc.strip().split(\"\\n\")[0].strip()",
  "",
  "",
  "def const_value(node):",
  "    if hasattr(ast, \"Constant\") and isinstance(node, ast.Constant):",
  "        return node.value",
  "    if isinstance(node, getattr(ast, \"Str\", ())):",
  "        return node.s",
  "    if isinstance(node, getattr(ast, \"Num\", ())):",
  "        return node.n",
  "    return None",
  "",
  "",
  "def end_line(node):",
  "    end = getattr(node, \"end_lineno\", None)",
  "    if end:",
  "        return end",
  "    body = getattr(node, \"body\", None)",
  "    if not body:",
  "        return node.lineno",
  "    return end_line(body[-1])",
  "",
  "",
  "class ModuleParser(object):",
  "",
  "    def __init__(self, path):",
  "        self.path = path",
  "        self.imports = \x7b\x7d",
  "",
  "    def name_ref(self, node):",
  "        if isinstance(node, ast.Name):",
  "            name = node.id",
  "        elif isinstance(node, ast.Attribute):",
  "            name = node.attr",
  "        else:",
  "            return None",
  "        if name == \"self\":",
  "            return None",
  "        return [self.imports.get(name), name]",
  "",
  "    def parse_controls(self, locator):",
  "        controls = []",
  "        for key, value in zip(locator.keys, locator.values):",
  "            name = const_value(key) if key is not None else None",
  "            if not isinstance(name, str):",
  "                continue",
  "            control = \x7b",
  "                \"name\": name,",
  "                \"line\": key.lineno,",
  "                \"endline\": end_line(value),",
  "                \"attrs\": \x7b\x7d,",
  "            \x7d",
  "            if isinstance(value, ast.Dict):",
  "                for attr_key, attr_value in zip(value.keys, value.values):",
  "                    attr = const_value(attr_key) if attr_key is not None else None",
  "                    if not isinstance(attr, str):",
  "                        continue",
  "                    if isinstance(attr_value, ast.Call):",
  "                        args = attr_value.args",
  "                        func = self.name_ref(attr_value.func)",
  "                        if len(args) == 1 and isinstance(const_value(args[0]), str) and func:",
  "                            control[\"attrs\"][attr] = [func[1], const_value(args[0])]",
  "                    elif isinstance(attr_value, (ast.Name, ast.Attribute)):",
  "                        control[\"attrs\"][attr] = self.name_ref(attr_value)",
  "                    else:",
  "                        constant = const_value(attr_value)",
  "                        if constant is not None:",
  "                            control[\"attrs\"][attr] = constant",
  "            controls.append(control)",
  "        return controls",
  "",
  "    def find_locator(self, init):",
  "        for stmt in init.body:",
  "            if not (isinstance(stmt, ast.Expr) and isinstance(stmt.value, ast.Call)):",
  "                continue",
  "            func = stmt.value.func",
  "            if not (isinstance(func, ast.Attribute) and func.attr in LOCATOR_CALLS):",
  "                continue",
  "            if not stmt.value.args:",
  "                continue",
  "            locator = stmt.value.args[0]",
  "            if isinstance(locator, (ast.Name, ast.Attribute)):",
  "                wanted = self.name_ref(locator)",
  "                for assign in init.body:",
  "                    if isinstance(assign, ast.Assign):",
  "                        for target in assign.targets:",
  "                            if self.name_ref(target) == wanted:",
  "                                locator = assign.value",
  "            if isinstance(locator, ast.Dict):",
  "                return locator",
  "        return None",
  "",
  "    def parse_steps(self, func):",
  "        steps = []",
  "        for stmt in func.body:",
  "            if not (isinstance(stmt, ast.Expr) and isinstance(stmt.value, ast.Call)):",
  "                continue",
  "            call = stmt.value",
  "            if isinstance(call.func, ast.Attribute) and call.func.attr in STEP_CALLS and call.args:",
  "                name = const_value(call.args[0])",
  "                if isinstance(name, str):",
  "                    steps.append(\x7b",
  "                        \"name\": name,",
  "                        \"docstring\": name,",
  "                        \"line\": stmt.lineno,",
  "                        \"endline\": end_line(stmt),",
  "                    \x7d)",
  "        return steps",
  "",
  "    def parse_function(self, node, with_steps):",
  "        return \x7b",
  "            \"name\": node.name,",
  "            \"docstring\": first_doc_line(node),",
  "            \"line\": node.lineno,",
  "            \"endline\": end_line(node),",
  "            \"steps\": self.parse_steps(node) if with_steps and node.name in RUN_METHODS else [],",
  "        \x7d",
  "",
  "    def parse_class(self, node):",
  "        clazz = \x7b",
  "            \"name\": node.name,",
  "            \"docstring\": first_doc_line(node),",
  "            \"line\": node.lineno,",
  "            \"endline\": end_line(node),",
  "            \"is_testcase\": False,",
  "            \"bases\": [self.name_ref(base) for base in node.bases],",
  "            \"static_fields\": [],",
  "            \"functions\": [],",
  "            \"controls\": [],",
  "        \x7d",
  "        for item in node.body:",
  "            if isinstance(item, ast.Assign) and len(item.targets) == 1 and isinstance(item.targets[0], ast.Name):",
  "                name = item.targets[0].id",
  "                value = const_value(item.value)",
  "                if value is None and isinstance(item.value, ast.Attribute) and name in TESTCASE_FIELDS:",
  "                    value = item.value.attr",
  "                if value is not None and (name in TESTCASE_FIELDS or isinstance(value, str)):",
  "                    clazz[\"static_fields\"].append([name, str(value), item.lineno])",
  "            elif isinstance(item, ast.FunctionDef):",
  "                if item.name == \"__init__\":",
  "                    locator = self.find_locator(item)",
  "                    if locator is not None:",
  "                        clazz[\"controls\"].extend(self.parse_controls(locator))",
  "                clazz[\"functions\"].append(self.parse_function(item, True))",
  "",
  "        function_names = set(f[\"name\"] for f in clazz[\"functions\"])",
  "        field_names = set(f[0] for f in clazz[\"static_fields\"])",
  "        clazz[\"is_testcase\"] = bool(function_names.intersection(RUN_METHODS)) and all(",
  "            field in field_names for field in TESTCASE_FIELDS",
  "        )",
  "        return clazz",
  "",
  "    def parse(self):",
  "        result = \x7b\"classes\": [], \"functions\": [], \"errors\": []\x7d",
  "        with io.open(self.path, \"rb\") as fp:",
  "            source = fp.read()",
  "        try:",
  "            tree = ast.parse(source)",
  "        except SyntaxError as e:",
  "            result[\"errors\"].append(\x7b\"lineno\": e.lineno, \"text\": e.text\x7d)",
  "            return result",
  "",
  "        result[\"docstring\"] = first_doc_line(tree)",
  "        for item in tree.body:",
  "            if isinstance(item, ast.Import):",
  "                for alias in item.names:",
  "                    self.imports[alias.asname or alias.name] = alias.name",
  "            elif isinstance(item, ast.ImportFrom):",
  "                for alias in item.names:",
  "                    self.imports[alias.asname or alias.name] = item.module",
  "            elif isinstance(item, ast.ClassDef):",
  "                result[\"classes\"].append(self.parse_class(item))",
  "            elif isinstance(item, ast.FunctionDef):",
  "                result[\"functions\"].append(self.parse_function(item, False))",
  "        return result",
  "",
  "",
  "if __name__ == \"__main__\":",
  "    if len(sys.argv) < 2:",
  "        print(\"usage: python parse_file.py python_file_path\", file=sys.stderr)",
  "        sys.exit(2)",
  "    print(json.dumps(ModuleParser(sys.argv[1]).parse()))"]

end HelperScript
end Testbench
