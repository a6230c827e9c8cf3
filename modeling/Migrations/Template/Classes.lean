import Migrations.Template

namespace Migrations.Template

def migration : Template where
  name := "migration"
  source := Text.join ['\n'] [
    "<?php",
    "",
    "use Illuminate\\Database\\Migrations\\Migration;",
    "use Illuminate\\Database\\Schema\\Blueprint;",
    "use Illuminate\\Support\\Facades\\Schema;",
    "",
    "class \x7b\x7bclass\x7d\x7d extends Migration",
    "\x7b",
    "    /**",
    "     * Run the migrations.",
    "     *",
    "     * @return void",
    "     */",
    "    public function up()",
    "    \x7b",
    "        \x7b\x7bschema_up\x7d\x7d",
    "    \x7d",
    "",
    "    /**",
    "     * Reverse the migrations.",
    "     *",
    "     * @return void",
    "     */",
    "    public function down()",
    "    \x7b",
    "        \x7b\x7bschema_down\x7d\x7d",
    "    \x7d",
    "\x7d",
    ""]

def model : Template where
  name := "model"
  source := Text.join ['\n'] [
    "<?php",
    "",
    "namespace \x7b\x7bnamespace\x7d\x7d;",
    "",
    "use Illuminate\\Database\\Eloquent\\Model;",
    "use Illuminate\\Database\\Eloquent\\SoftDeletes;",
    "",
    "class \x7b\x7bclass\x7d\x7d extends Model",
    "\x7b",
    "    use SoftDeletes;",
    "",
    "    protected $table = '\x7b\x7btable\x7d\x7d';",
    "\x7d",
    ""]

end Migrations.Template
